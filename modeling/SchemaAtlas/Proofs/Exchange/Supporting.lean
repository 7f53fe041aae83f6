import SchemaAtlas.Proofs.Exchange.Asking

/-!
# Computations that are supported

A computation is supported if it never ends because an engine lacks a
capability, whatever it is answered.  Asking a query is supported: a driver has
errors of its own.
-/

namespace SchemaAtlas

variable {α β : Type}

/-- An outcome is not that an engine lacks a capability. -/
def Supported (outcome : Except Error α) : Prop :=
  ∀ engine capability, outcome ≠ .error (.unsupported engine capability)

namespace Supported

theorem ok (value : α) : Supported (.ok value) := by
  intro engine capability failed
  cases failed

theorem driver (outcome : Except DriverError α) :
    Supported (Inquiry.liftDriver outcome) := by
  cases outcome with
  | error cause =>
      intro engine capability failed
      cases failed
  | ok value => exact .ok value

theorem mapM {step : α → Except Error β} (each : ∀ item, Supported (step item))
    (items : List α) : Supported (items.mapM step) := by
  rcases mapM_eq_error_or_ok step items with
    ⟨item, _, cause, failed, run⟩ | ⟨values, run, _⟩
  · rw [run]
    intro engine capability unsupported
    apply each item engine capability
    rw [failed, Except.error.inj unsupported]
  · rw [run]
    exact .ok values

end Supported

namespace Recorded

variable {ε ω : Type}

/-- No run of a computation ends because an engine lacks a capability. -/
def Supports (body : Recorded ε ω α) : Prop :=
  ∀ surroundings before, Supported (body surroundings before).1

namespace Supports

theorem attempt (body : Recorded ε ω α) : body.attempt.Supports :=
  fun _ _ => .ok _

variable [Record ω]

theorem pure (value : α) : Supports (Pure.pure value : Recorded ε ω α) :=
  fun _ _ => .ok value

theorem ofExcept {outcome : Except Error α} (supported : Supported outcome) :
    Supports (Recorded.ofExcept outcome : Recorded ε ω α) :=
  fun _ _ => supported

theorem throw {cause : Error}
    (supported : Supported (.error cause : Except _ α)) :
    Supports (MonadExcept.throw cause : Recorded ε ω α) :=
  fun _ _ => supported

/-- What follows a computation has to be supported for the values that can be
returned. -/
theorem bind_of_returns {first : Recorded ε ω α} {next : α → Recorded ε ω β}
    (supports : first.Supports)
    (others : ∀ surroundings value, first.Returns surroundings value →
      ∀ before, Supported (next value surroundings before).1) :
    (first >>= next).Supports := by
  intro surroundings before
  have supported := supports surroundings before
  cases run : first surroundings before with
  | mk outcome made =>
      rw [run] at supported
      cases outcome with
      | error cause =>
          rw [bind_of_error run]
          intro engine capability failed
          apply supported engine capability
          rw [Except.error.inj failed]
      | ok value =>
          rw [bind_of_ok run]
          exact others surroundings value (returns_of_eq run) _

theorem bind {first : Recorded ε ω α} {next : α → Recorded ε ω β}
    (supports : first.Supports) (others : ∀ value, (next value).Supports) :
    (first >>= next).Supports :=
  supports.bind_of_returns fun surroundings value _ => others value surroundings

end Supports

end Recorded

namespace Inquiry

open Recorded

theorem supports_asking (query : CatalogQuery) (parameters : List String)
    (use : List Catalog.Row → Except DriverError α) :
    (asking query parameters use).Supports :=
  fun _ _ => .driver _

theorem supports_listOf (read : Catalog.Row → Except DriverError α)
    (query : CatalogQuery) (parameters : List String) :
    (listOf read query parameters).Supports :=
  listOf_eq_asking read query parameters ▸ supports_asking _ _ _

theorem supports_value? (query : CatalogQuery) (parameters : List String) :
    (value? query parameters).Supports :=
  value?_eq_asking query parameters ▸ supports_asking _ _ _

end Inquiry

/-- A kind of inquiry that composed inquiries are of if their parts are. -/
structure Inquiry.Composable (asks : {α : Type} → Inquiry α → Prop) : Prop where
  known : ∀ {α : Type} {outcome : Except Error α}, Supported outcome →
    asks (Recorded.ofExcept outcome)
  bind : ∀ {α β : Type} {first : Inquiry α} {next : α → Inquiry β},
    asks first → (∀ value, asks (next value)) → asks (first >>= next)

namespace Inquiry.Composable

theorem supports : Composable fun inquiry => inquiry.Supports :=
  ⟨Recorded.Supports.ofExcept, Recorded.Supports.bind⟩

theorem reads (engine : Engine) (topics : Topic → Prop) :
    Composable fun inquiry => inquiry.Reads engine topics :=
  ⟨fun _ => .known _, .bind⟩

variable {asks : {α : Type} → Inquiry α → Prop} (composable : Composable asks)

include composable

theorem pure (value : α) : asks (Pure.pure value) :=
  composable.known (.ok value)

theorem mapM {step : α → Inquiry β} (each : ∀ item, asks (step item))
    (items : List α) : asks (items.mapM step) := by
  induction items with
  | nil =>
      rw [List.mapM_nil]
      exact composable.pure []
  | cons item rest ih =>
      rw [List.mapM_cons]
      exact composable.bind (each item) fun value =>
        composable.bind ih fun values => composable.pure (value :: values)

end Inquiry.Composable

theorem Session.supports_ask {inquiry : Inquiry α}
    (supports : inquiry.Supports) : (Session.ask inquiry).Supports :=
  fun surroundings before => supports surroundings.connection before.requests

end SchemaAtlas
