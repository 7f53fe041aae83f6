import SchemaAtlas.Error

/-!
# Recorded computations

A recorded computation may fail, and it leaves a record of what it did, also
when it fails.  What it does may depend on its surroundings and on the record of
everything that happened before it.  It returns only its own part of the record,
so the record of two computations in a row is the one record followed by the
other (`bind_apply`).
-/

namespace SchemaAtlas

/-- A type of records, which can be put one after the other. -/
class Record (ω : Type) where
  none : ω
  append : ω → ω → ω
  none_append : ∀ record, append none record = record
  append_none : ∀ record, append record none = record
  append_assoc : ∀ first second third,
    append (append first second) third = append first (append second third)

instance : Record (List α) where
  none := []
  append := List.append
  none_append := List.nil_append
  append_none := List.append_nil
  append_assoc := List.append_assoc

/-- A computation with surroundings `ε` that leaves a record `ω`. -/
def Recorded (ε ω α : Type) : Type :=
  ε → ω → Except Error α × ω

namespace Recorded

variable {ε ω α β : Type} [Record ω]

def done (value : α) : Recorded ε ω α :=
  fun _ _ => (.ok value, Record.none)

/-- The computation that fails at once. -/
def fail (cause : Error) : Recorded ε ω α :=
  fun _ _ => (.error cause, Record.none)

/-- One computation after the other.  A failure of the first is the end. -/
def andThen (first : Recorded ε ω α) (next : α → Recorded ε ω β) :
    Recorded ε ω β :=
  fun surroundings before =>
    match first surroundings before with
    | (.error cause, made) => (.error cause, made)
    | (.ok value, made) =>
      let (outcome, more) := next value surroundings (Record.append before made)
      (outcome, Record.append made more)

instance : Monad (Recorded ε ω) where
  pure := done
  bind := andThen

instance : MonadExceptOf Error (Recorded ε ω) where
  throw := fail
  tryCatch body handle := fun surroundings before =>
    match body surroundings before with
    | (.ok value, made) => (.ok value, made)
    | (.error cause, made) =>
      let (outcome, more) :=
        handle cause surroundings (Record.append before made)
      (outcome, Record.append made more)

/-- The computation with the outcome that is already known. -/
def ofExcept (outcome : Except Error α) : Recorded ε ω α :=
  fun _ _ => (outcome, Record.none)

/-- The computation that never fails: a failure becomes its value. -/
def attempt (body : Recorded ε ω α) : Recorded ε ω (Except Error α) :=
  fun surroundings before =>
    let (outcome, made) := body surroundings before
    (.ok outcome, made)

theorem pure_apply (value : α) (surroundings : ε) (before : ω) :
    (pure value : Recorded ε ω α) surroundings before =
      (.ok value, Record.none) := rfl

theorem bind_apply (first : Recorded ε ω α) (next : α → Recorded ε ω β)
    (surroundings : ε) (before : ω) :
    (first >>= next) surroundings before =
      match first surroundings before with
      | (.error cause, made) => (.error cause, made)
      | (.ok value, made) =>
        ((next value surroundings (Record.append before made)).1,
          Record.append made
            (next value surroundings (Record.append before made)).2) := rfl

instance : LawfulMonad (Recorded ε ω) := LawfulMonad.mk' _
  (by
    intro α body
    funext surroundings before
    show (body >>= fun value => pure (id value)) surroundings before = _
    rw [bind_apply]
    rcases body surroundings before with ⟨outcome | outcome, made⟩
    · rfl
    · simp [pure_apply, Record.append_none])
  (by
    intro α β value next
    funext surroundings before
    rw [bind_apply, pure_apply]
    simp [Record.append_none, Record.none_append])
  (by
    intro α β γ body next last
    funext surroundings before
    simp only [bind_apply]
    rcases body surroundings before with ⟨outcome | outcome, made⟩
    · rfl
    · simp only
      rcases next outcome surroundings (Record.append before made) with
        ⟨following | following, more⟩
      · rfl
      · simp [Record.append_assoc])

end Recorded

end SchemaAtlas
