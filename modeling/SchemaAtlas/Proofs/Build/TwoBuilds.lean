import SchemaAtlas.Proofs.Build.CrossReference
import SchemaAtlas.Proofs.Exchange.Correspondence

/-!
# Two builds

Two builds are compared by what each of their steps finds.  Where all inquiries
find the same, the builds lead to the same graph but for the keys of the foreign
keys, which are drawn.  They ask the same and tell the same, and where the one
fails the other fails with the same error.
-/

namespace SchemaAtlas

/-- Two graphs register their foreign keys under different keys and are the same
otherwise. -/
structure Graph.SameButKeys (left right : Graph) : Prop where
  others : { left with foreignKeys := right.foreignKeys } = right
  places : left.foreignKeys.values.Perm right.foreignKeys.values

/-- Two builds led to the same but for the keys of the foreign keys. -/
structure BuildReport.SameButKeys (left right : BuildReport) : Prop where
  outcome : SameOutcome Graph.SameButKeys left.outcome right.outcome
  requests : left.journal.requests = right.journal.requests
  events : left.journal.events = right.journal.events
  phase : left.phase = right.phase

namespace Build

open Recorded Session

/-- The inquiries of two builds find the same after the same requests. -/
structure FindTheSame (adapter : Adapter) (left right : Options)
    (here there : Connection) : Prop where
  schema : ∀ history, schemaToLoad adapter left here history =
    schemaToLoad adapter right there history
  enumerations : ∀ schema history,
    loadEnumerations adapter left schema here history =
      loadEnumerations adapter right schema there history
  routines : ∀ schema history, loadRoutines adapter left schema here history =
    loadRoutines adapter right schema there history
  sequences : ∀ schema history, adapter.sequenceTables schema here history =
    adapter.sequenceTables schema there history
  counters : ∀ schema history,
    adapter.autoIncrementTables schema here history =
      adapter.autoIncrementTables schema there history
  relations : ∀ schema backed kind history,
    loadRelations adapter left schema backed kind here history =
      loadRelations adapter right schema backed kind there history
  foreignKeys : ∀ schema relations history,
    resolveForeignKeys adapter left schema relations here history =
      resolveForeignKeys adapter right schema relations there history
  indexes : ∀ schema relations history,
    resolveIndexes adapter left schema relations here history =
      resolveIndexes adapter right schema relations there history

theorem FindTheSame.refl (adapter : Adapter) (options : Options)
    (connection : Connection) :
    FindTheSame adapter options options connection connection where
  schema _ := rfl
  enumerations _ _ := rfl
  routines _ _ := rfl
  sequences _ _ := rfl
  counters _ _ := rfl
  relations _ _ _ _ := rfl
  foreignKeys _ _ _ := rfl
  indexes _ _ _ := rfl

variable {here there : Surroundings}

theorem agree_probe (kind : Probe) (schema : String)
    {left right : Inquiry (List String)}
    (same : ∀ history,
      left here.connection history = right there.connection history) :
    Agree here there (probe kind schema left) (probe kind schema right) := by
  apply (Agree.ask same).attempt.bind
  intro outcome
  cases outcome with
  | error cause => exact (Agree.tell _).bind fun _ => .pure []
  | ok names => exact .pure names

theorem agree_mergeViews (tables : NameMap Relation)
    (views : List (String × Relation)) :
    Agree here there (mergeViews tables views) (mergeViews tables views) := by
  induction views generalizing tables with
  | nil => exact .pure tables
  | cons view rest ih =>
      obtain ⟨name, relation⟩ := view
      rw [mergeViews]
      split
      · exact (Agree.tell _).bind fun _ => ih (tables.insert name relation)
      · exact ih (tables.insert name relation)

/-- Builds whose inquiries find the same lead to the same graph but for the keys
of the foreign keys. -/
theorem corresponds_graph {adapter : Adapter} {left right : Options}
    (same : FindTheSame adapter left right here.connection there.connection) :
    Corresponds here there Graph.SameButKeys (graph adapter left)
      (graph adapter right) := by
  apply (Agree.ask same.schema).bind_corresponds
  intro schema
  apply (Agree.ask (same.enumerations schema)).bind_corresponds
  intro enumerations
  apply (Agree.reach _ _).bind_corresponds
  intro _
  apply (Agree.ask (same.routines schema)).bind_corresponds
  intro routines
  apply (Agree.reach _ _).bind_corresponds
  intro _
  have sameBacked : Agree here there (backedTables adapter schema)
      (backedTables adapter schema) :=
    (agree_probe _ schema (same.sequences schema)).bind fun _ =>
      (agree_probe _ schema (same.counters schema)).bind fun _ => .pure _
  apply sameBacked.bind_corresponds
  intro backed
  apply (Agree.ask (same.relations schema backed .table)).bind_corresponds
  intro tables
  apply (Agree.reach _ _).bind_corresponds
  intro _
  apply (Agree.ask (same.relations schema backed .view)).bind_corresponds
  intro views
  apply (Agree.reach _ _).bind_corresponds
  intro _
  apply (agree_mergeViews tables views.entries).bind_corresponds
  intro relations
  apply (Agree.reach _ _).bind_corresponds
  intro _
  apply (Agree.ask (same.foreignKeys schema relations)).bind_corresponds
  intro owned
  -- The drawn keys are the one thing in which the two builds differ.
  apply ((searches_registerPlaces _ _).corresponds
    (searches_registerPlaces _ _)).bind
  rintro leftKeys rightKeys ⟨leftReturns, rightReturns⟩
  apply (Agree.reach _ _).bind_corresponds
  intro _
  apply (Agree.ask (same.indexes schema _)).bind_corresponds
  intro ownedIndexes
  apply (Agree.reach _ _).bind_corresponds
  intro _
  apply (Agree.reach _ _).bind_corresponds
  intro _
  apply Corresponds.pure
  exact {
    others := rfl
    places := (perm_of_returns_registerPlaces leftReturns).trans
      (perm_of_returns_registerPlaces rightReturns).symm }

end Build

namespace GraphBuilder

theorem report_eq (builder : GraphBuilder) (surroundings : Surroundings)
    {outcome : Except Error Graph} {journal : Journal}
    (run : Build.graph builder.adapter builder.options surroundings
      Journal.none = (outcome, journal)) :
    (builder.build surroundings).1 =
      ⟨outcome, journal, journal.reached.getD .init⟩ := by
  rw [build, run]

theorem sameButKeys_of_findTheSame {left right : GraphBuilder}
    {here there : Surroundings} (sameAdapter : left.adapter = right.adapter)
    (same : Build.FindTheSame left.adapter left.options right.options
      here.connection there.connection)
    (leftEnds : SearchEnds (left.build here).1.outcome)
    (rightEnds : SearchEnds (right.build there).1.outcome) :
    (left.build here).1.SameButKeys (right.build there).1 := by
  have corresponds := Build.corresponds_graph same Journal.none Journal.none
    (.refl _)
  rw [sameAdapter] at corresponds
  cases leftRun : Build.graph left.adapter left.options here Journal.none with
  | mk leftOutcome leftJournal =>
      cases rightRun :
          Build.graph right.adapter right.options there Journal.none with
      | mk rightOutcome rightJournal =>
          rw [report_eq left here leftRun] at leftEnds ⊢
          rw [report_eq right there rightRun] at rightEnds ⊢
          rw [sameAdapter] at leftRun
          rw [leftRun, rightRun] at corresponds
          obtain ⟨outcome, sameJournal⟩ := corresponds leftEnds rightEnds
          refine ⟨outcome, sameJournal.requests, sameJournal.events, ?_⟩
          rw [sameJournal.reached]

end GraphBuilder

end SchemaAtlas
