import SchemaAtlas.Proofs.Adapter.Rows

/-!
# Faults of answers

An answer of a connection is at fault if the query is refused, or if a row that
is read of it does not hold what the engine promises.  Every row of a list is
read, but only the first row of an answer that stands for one value.
-/

namespace SchemaAtlas

open Catalog

namespace Topic

/-- The probe that asks about a topic. -/
def probe? : Topic → Option Probe
  | .sequences => some .sequence
  | .rowidTables | .identityTables | .autoIncrement => some .autoIncrement
  | _ => none

/-- Whether the answer about a topic stands for one value. -/
def isSingle (engine : Engine) : Topic → Bool
  | .schema | .indexOrder | .viewSchema => true
  | .enumLabels => engine == .mysql
  | _ => false

/-- The rows that are read of an answer. -/
def rowsRead (engine : Engine) (topic : Topic) (rows : List Row) : List Row :=
  if topic.isSingle engine then rows.take 1 else rows

def contents (engine : Engine) : Topic → List Content
  | .schema | .indexOrder | .viewSchema => [.optionalText]
  | .enums | .routineParameters => [.text]
  | .enumLabels =>
    match engine with
    | .mysql => [.optionalText]
    | _ => [.text, .integer]
  | .routineResultsExist => [.truth]
  | .routines => [.text, .text]
  | .tables => engine.tableContents
  | .sequences | .rowidTables | .identityTables | .autoIncrement => [.text]
  | .columns => engine.columnContents
  | .foreignKeys => engine.foreignKeyContents
  | .indexes => engine.indexContents
  | .indexColumns => [.integer, .integer, .text]

/-- What is wrong with a row that an engine reports about a topic. -/
def rowFault? (engine : Engine) (topic : Topic) (row : Row) :
    Option DriverError :=
  row.fault? (topic.contents engine)

/-- The fault of an answer: the refusal, or that of the first bad row which is
read. -/
def fault? (engine : Engine) (topic : Topic) :
    Except DriverError (List Row) → Option DriverError
  | .error cause => some cause
  | .ok rows =>
    (topic.rowsRead engine rows).findSome? (topic.rowFault? engine)

theorem rowFault?_of_isSingle {engine : Engine} {topic : Topic}
    (single : topic.isSingle engine = true) (row : Row) :
    topic.rowFault? engine row = DriverError.of? (row.optionalText 0) := by
  have holdsText : topic.contents engine = [.optionalText] := by
    cases topic with
    | schema | indexOrder | viewSchema => rfl
    | enumLabels =>
        obtain rfl : engine = .mysql := eq_of_beq single
        rfl
    | _ => cases single
  rw [rowFault?, holdsText, row.of?_optionalText]
  exact Option.or_none

end Topic

namespace DriverError

variable {α : Type}

/-- The error of a list of readings is that of the first bad row. -/
theorem of?_mapM (read : Row → Except DriverError α) (rows : List Row) :
    of? (rows.mapM read) = rows.findSome? fun row => of? (read row) := by
  induction rows with
  | nil => rfl
  | cons row rest ih =>
      rw [List.mapM_cons, List.findSome?_cons]
      cases first : read row with
      | error cause => rfl
      | ok value =>
          show _ = rest.findSome? fun row => of? (read row)
          rw [← ih]
          exact of?_bind_pure _ _

theorem eq_error_of_of? {outcome : Except DriverError α} {cause : DriverError}
    (failed : of? outcome = some cause) : outcome = .error cause := by
  cases outcome with
  | error other => rw [Option.some.inj failed]
  | ok value => cases failed

end DriverError

/-- What is made of the rows of an answer fails exactly if the answer is at
fault. -/
def Topic.ReadBy {α : Type} (engine : Engine) (topic : Topic)
    (use : List Row → Except DriverError α) : Prop :=
  ∀ answer, DriverError.of? (answer >>= use) = topic.fault? engine answer

theorem Topic.readBy_mapM {α : Type} {engine : Engine} {topic : Topic}
    {read : Row → Except DriverError α}
    (isList : topic.isSingle engine = false)
    (readsRow : ∀ row,
      DriverError.of? (read row) = topic.rowFault? engine row) :
    topic.ReadBy engine fun rows => rows.mapM read := by
  intro answer
  cases answer with
  | error cause => rfl
  | ok rows =>
      have all : topic.rowsRead engine rows = rows := by
        rw [rowsRead, isList]
        rfl
      rw [fault?, all, ← funext readsRow]
      exact DriverError.of?_mapM read rows

end SchemaAtlas
