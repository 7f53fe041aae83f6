import SchemaAtlas.Proofs.Exchange.Returning

/-!
# Sessions and their journals

A journal is read through its parts: the requests and the events of two sessions
in a row are those of the one followed by those of the other.  An inquiry inside
a session leaves its requests in the journal and nothing else.

A search for an unused key leaves nothing in it but the number of draws.  It is
given up when it runs out of numbers, which stands for a run that has not ended.
-/

namespace SchemaAtlas

namespace Journal

/-- The journal of a session that made requests and nothing else. -/
def ofRequests (requests : List Request) : Journal :=
  ⟨requests, [], 0, .none⟩

/-- The journal of a session that reached a phase and nothing else. -/
def ofReached (phase : Phase) (schema : String) : Journal :=
  ⟨[], [.phaseReached phase schema], 0, some phase⟩

@[simp] theorem requests_append (first second : Journal) :
    (Record.append first second).requests =
      first.requests ++ second.requests := rfl

@[simp] theorem events_append (first second : Journal) :
    (Record.append first second).events = first.events ++ second.events := rfl

@[simp] theorem requests_none : (Record.none : Journal).requests = [] := rfl

@[simp] theorem events_none : (Record.none : Journal).events = [] := rfl

@[simp] theorem requests_ofRequests (requests : List Request) :
    (ofRequests requests).requests = requests := rfl

@[simp] theorem events_ofRequests (requests : List Request) :
    (ofRequests requests).events = [] := rfl

@[simp] theorem events_ofReached (phase : Phase) (schema : String) :
    (ofReached phase schema).events = [.phaseReached phase schema] := rfl

end Journal

namespace Session

theorem execute_apply (sql : String) (surroundings : Surroundings)
    (before : Journal) :
    execute sql surroundings before =
      (.ok (surroundings.connection.execute before.requests sql),
        .ofRequests [.execute sql]) := rfl

theorem ask_apply {α : Type} (inquiry : Inquiry α) (surroundings : Surroundings)
    (before : Journal) :
    ask inquiry surroundings before =
      ((inquiry surroundings.connection before.requests).1,
        .ofRequests (inquiry surroundings.connection before.requests).2) := rfl

end Session

/-- A run was not given up in the search for an unused key. -/
def SearchEnds {α : Type} (outcome : Except Error α) : Prop :=
  ∀ name, outcome ≠ .error (.drawsExhausted name)

theorem SearchEnds.ok {α : Type} (value : α) : SearchEnds (.ok value) := by
  intro name failed
  cases failed

theorem SearchEnds.of_bind {ε ω α β : Type} [Record ω] {surroundings : ε}
    {before : ω} {first : Recorded ε ω α} {next : α → Recorded ε ω β}
    (ends : SearchEnds ((first >>= next) surroundings before).1) :
    SearchEnds (first surroundings before).1 := by
  intro name outcome
  apply ends name
  rw [Recorded.bind_of_error (Prod.ext outcome rfl)]

namespace Journal

/-- Two journals differ in the number of draws only. -/
structure SameButDraws (left right : Journal) : Prop where
  requests : left.requests = right.requests
  events : left.events = right.events
  reached : left.reached = right.reached

namespace SameButDraws

theorem refl (journal : Journal) : SameButDraws journal journal :=
  ⟨rfl, rfl, rfl⟩

theorem symm {left right : Journal} (same : left.SameButDraws right) :
    right.SameButDraws left :=
  ⟨same.requests.symm, same.events.symm, same.reached.symm⟩

theorem trans {left middle right : Journal} (same : left.SameButDraws middle)
    (also : middle.SameButDraws right) : left.SameButDraws right :=
  ⟨same.requests.trans also.requests, same.events.trans also.events,
    same.reached.trans also.reached⟩

theorem append {left right more other : Journal}
    (same : left.SameButDraws right) (sameMore : more.SameButDraws other) :
    (Record.append left more).SameButDraws (Record.append right other) where
  requests := by
    rw [requests_append, requests_append, same.requests, sameMore.requests]
  events := by
    rw [events_append, events_append, same.events, sameMore.events]
  reached := by
    show more.reached.or left.reached = other.reached.or right.reached
    rw [same.reached, sameMore.reached]

end SameButDraws

end Journal

namespace Session

open Recorded

variable {α β : Type}

/-- A session draws numbers and does nothing else, and fails only where it is
given up. -/
structure Searches (session : Session α) : Prop where
  onlyDraws : ∀ surroundings before,
    (session surroundings before).2.SameButDraws Journal.none
  returns : ∀ surroundings before, SearchEnds (session surroundings before).1 →
    ∃ value, (session surroundings before).1 = .ok value

namespace Searches

theorem pure (value : α) : Searches (Pure.pure value) :=
  ⟨fun _ _ => .refl _, fun _ _ _ => ⟨value, rfl⟩⟩

theorem draw : Searches draw :=
  ⟨fun _ _ => ⟨rfl, rfl, rfl⟩, fun _ _ _ => ⟨_, rfl⟩⟩

theorem patience : Searches patience :=
  ⟨fun _ _ => .refl _, fun _ _ _ => ⟨_, rfl⟩⟩

theorem givenUp (name : String) :
    Searches (throw (.drawsExhausted name) : Session α) where
  onlyDraws := fun _ _ => .refl _
  returns := by
    intro surroundings before ends
    exact absurd rfl (ends name)

theorem bind {first : Session α} {next : α → Session β}
    (searches : Searches first) (others : ∀ value, Searches (next value)) :
    Searches (first >>= next) where
  onlyDraws := by
    intro surroundings before
    exact record_bind (Journal.SameButDraws · Journal.none)
      (fun early late => early.append late)
      (searches.onlyDraws surroundings before)
      fun value => (others value).onlyDraws surroundings
  returns := by
    intro surroundings before ends
    obtain ⟨value, found⟩ :=
      searches.returns surroundings before ends.of_bind
    rw [bind_of_ok (Prod.ext found rfl)] at ends ⊢
    exact (others value).returns surroundings _ ends

/-- Two searches that end both find something, and do the same but for the
draws. -/
theorem both_find {left : Session α} {right : Session β}
    (leftSearches : Searches left) (rightSearches : Searches right)
    {here there : Surroundings} {before other : Journal}
    (leftEnds : SearchEnds (left here before).1)
    (rightEnds : SearchEnds (right there other).1) :
    (∃ value found, (left here before).1 = .ok value ∧
      (right there other).1 = .ok found ∧
      left.Returns here value ∧ right.Returns there found) ∧
    (left here before).2.SameButDraws (right there other).2 := by
  obtain ⟨value, run⟩ := leftSearches.returns here before leftEnds
  obtain ⟨found, otherRun⟩ := rightSearches.returns there other rightEnds
  have leftDraws := leftSearches.onlyDraws here before
  have rightDraws := rightSearches.onlyDraws there other
  exact ⟨⟨value, found, run, otherRun, ⟨before, run⟩, ⟨other, otherRun⟩⟩,
    leftDraws.trans rightDraws.symm⟩

end Searches

end Session

end SchemaAtlas
