import SchemaAtlas.Proofs.Exchange.Supporting
import SchemaAtlas.Proofs.Exchange.Yielding

/-!
# Composed sessions

A build is composed of inquiries, of what it tells and reaches, and of searches
for unused keys, which are given up at some point.  What holds of all of its
inquiries then holds of the build, and what holds of all that its parts tell
holds of its events.
-/

namespace SchemaAtlas.Session

open Recorded

variable {asks : {α : Type} → Inquiry α → Prop} {tells : Event → Prop}

/-- A session is composed of inquiries of some kind, and of steps that ask
nothing; its events are of some kind too. -/
inductive Composed (asks : {α : Type} → Inquiry α → Prop)
    (tells : Event → Prop) : {α : Type} → Session α → Prop where
  | pure {α : Type} (value : α) : Composed asks tells (Pure.pure value)
  | givenUp {α : Type} (name : String) :
      Composed asks tells (throw (.drawsExhausted name) : Session α)
  | ask {α : Type} {inquiry : Inquiry α} (isAsked : asks inquiry) :
      Composed asks tells (Session.ask inquiry)
  | attempt {α : Type} {session : Session α} :
      Composed asks tells session → Composed asks tells session.attempt
  | tell {event : Event} (isTold : tells event) :
      Composed asks tells (Session.tell event)
  | reach {phase : Phase} {schema : String}
      (isTold : tells (.phaseReached phase schema)) :
      Composed asks tells (Session.reach phase schema)
  | draw : Composed asks tells Session.draw
  | patience : Composed asks tells Session.patience
  | bind {α β : Type} {first : Session α} {next : α → Session β} :
      Composed asks tells first → (∀ value, Composed asks tells (next value)) →
      Composed asks tells (first >>= next)

namespace Composed

variable {α : Type} {session : Session α}

/-- What holds of all requests of the inquiries holds of all requests. -/
theorem requests {holds : Request → Prop}
    (each : ∀ {α : Type} {inquiry : Inquiry α}, asks inquiry →
      ∀ connection before, ∀ request ∈ (inquiry connection before).2,
        holds request)
    (composed : session.Composed asks tells) (surroundings : Surroundings)
    (before : Journal) :
    ∀ request ∈ (session surroundings before).2.requests, holds request := by
  induction composed generalizing before with
  | pure | givenUp | tell | reach | draw | patience =>
      exact List.forall_mem_nil _
  | ask isAsked => exact each isAsked surroundings.connection before.requests
  | attempt _ ih => exact ih before
  | bind _ _ ihFirst ihNext =>
      exact record_bind
        (fun made : Journal => ∀ request ∈ made.requests, holds request)
        (fun early late => List.forall_mem_append.mpr ⟨early, late⟩)
        (ihFirst before) ihNext

theorem events (composed : session.Composed asks tells)
    (surroundings : Surroundings) (before : Journal) :
    ∀ event ∈ (session surroundings before).2.events, tells event := by
  induction composed generalizing before with
  | pure | givenUp | ask | draw | patience => exact List.forall_mem_nil _
  | tell isTold | reach isTold => exact List.forall_mem_singleton.mpr isTold
  | attempt _ ih => exact ih before
  | bind _ _ ihFirst ihNext =>
      exact record_bind (fun made : Journal => ∀ event ∈ made.events,
        tells event)
        (fun early late => List.forall_mem_append.mpr ⟨early, late⟩)
        (ihFirst before) ihNext

theorem events_of_yields (composed : session.Composed asks tells)
    {surroundings : Surroundings} {value : α} {made : Journal}
    (yields : session.Yields surroundings value made) :
    ∀ event ∈ made.events, tells event := by
  obtain ⟨before, run⟩ := yields
  have told := composed.events surroundings before
  rwa [run] at told

/-- If it does not matter to the inquiries when they are made, a session depends
on what came before only by the numbers that are left to draw. -/
theorem apply_eq_of_draws {surroundings : Surroundings}
    (anytime : ∀ {α : Type} {inquiry : Inquiry α}, asks inquiry →
      ∀ before other, inquiry surroundings.connection before =
        inquiry surroundings.connection other)
    (composed : session.Composed asks tells) {before other : Journal}
    (sameDraws : before.draws = other.draws) :
    session surroundings before = session surroundings other := by
  induction composed generalizing before other with
  | pure | givenUp | tell | reach | patience => rfl
  | ask isAsked =>
      rw [ask_apply, ask_apply, anytime isAsked before.requests other.requests]
  | attempt _ ih =>
      rw [Recorded.attempt, Recorded.attempt, ih sameDraws]
  | draw =>
      rw [Session.draw, sameDraws]
      rfl
  | bind _ _ ihFirst ihNext =>
      -- The same run of the first part draws the same numbers in both.
      apply bind_congr (ihFirst sameDraws)
      intro value made
      apply ihNext value
      show before.draws + made.draws = other.draws + made.draws
      rw [sameDraws]

theorem supports (each : ∀ {α : Type} {inquiry : Inquiry α}, asks inquiry →
      inquiry.Supports)
    (composed : session.Composed asks tells) : session.Supports := by
  induction composed with
  | pure value => exact .pure value
  | givenUp name => exact .throw nofun
  | ask isAsked => exact supports_ask (each isAsked)
  | attempt _ _ => exact .attempt _
  | tell | reach | draw | patience => exact fun _ _ => .ok _
  | bind _ _ ihFirst ihNext => exact ihFirst.bind ihNext

end Composed

end SchemaAtlas.Session
