import SchemaAtlas.Build.Builder
import SchemaAtlas.Proofs.Exchange.Composing

/-!
# What a build is composed of

A build is composed of the inquiries of its phases, and of what it tells about
probes, views and phases.  Once the enumerations and the routines are loaded,
what is left of it does not read them, but only puts them into the graph.
-/

namespace SchemaAtlas.Build

open Catalog Recorded Session

/-- All inquiries of a build are of some kind. -/
structure Asks (asks : {α : Type} → Inquiry α → Prop) (adapter : Adapter)
    (options : Options) : Prop where
  schema : asks (schemaToLoad adapter options)
  enumerations : ∀ schema, asks (loadEnumerations adapter options schema)
  routines : ∀ schema, asks (loadRoutines adapter options schema)
  sequences : ∀ schema, asks (adapter.sequenceTables schema)
  counters : ∀ schema, asks (adapter.autoIncrementTables schema)
  relations : ∀ schema backed kind,
    asks (loadRelations adapter options schema backed kind)
  foreignKeys : ∀ schema relations,
    asks (resolveForeignKeys adapter options schema relations)
  indexes : ∀ schema relations,
    asks (resolveIndexes adapter options schema relations)

theorem Asks.mono {asks wider : {α : Type} → Inquiry α → Prop}
    {adapter : Adapter} {options : Options} (asked : Asks asks adapter options)
    (weaken : ∀ {α : Type} {inquiry : Inquiry α}, asks inquiry →
      wider inquiry) :
    Asks wider adapter options where
  schema := weaken asked.schema
  enumerations schema := weaken (asked.enumerations schema)
  routines schema := weaken (asked.routines schema)
  sequences schema := weaken (asked.sequences schema)
  counters schema := weaken (asked.counters schema)
  relations schema backed kind := weaken (asked.relations schema backed kind)
  foreignKeys schema relations := weaken (asked.foreignKeys schema relations)
  indexes schema relations := weaken (asked.indexes schema relations)

/-- What a build does once the enumerations and the routines are loaded. -/
def graphWith (adapter : Adapter) (options : Options) (schema : String)
    (enumerations : List Enumeration) (routines : List Routine) :
    Session Graph := do
  let backed ← backedTables adapter schema
  let tables ← Session.ask (loadRelations adapter options schema backed .table)
  Session.reach .tablesLoaded schema
  let views ← Session.ask (loadRelations adapter options schema backed .view)
  Session.reach .viewsLoaded schema
  let relations ← mergeViews tables views.entries
  Session.reach .merged schema
  let owned ←
    Session.ask (resolveForeignKeys adapter options schema relations)
  let foreignKeys ← registerPlaces .empty (namedPlaces owned)
  let relations := attachForeignKeys relations owned
  Session.reach .foreignKeysResolved schema
  let ownedIndexes ←
    Session.ask (resolveIndexes adapter options schema relations)
  let relations := attachIndexes relations ownedIndexes
  Session.reach .indexesResolved schema
  Session.reach .done schema
  return {
    schema
    engine := adapter.engine
    enumerations
    routines
    relations
    foreignKeys
    indexes := indexMap ownedIndexes }

theorem graph_eq (adapter : Adapter) (options : Options) :
    graph adapter options = (do
      let schema ← Session.ask (schemaToLoad adapter options)
      let enumerations ← Session.ask (loadEnumerations adapter options schema)
      Session.reach .enumsLoaded schema
      let routines ← Session.ask (loadRoutines adapter options schema)
      Session.reach .routinesLoaded schema
      graphWith adapter options schema enumerations routines) := rfl

/-- The enumerations and the routines are put into the graph and nothing
else. -/
theorem graphWith_eq (adapter : Adapter) (options : Options) (schema : String)
    (enumerations : List Enumeration) (routines : List Routine) :
    graphWith adapter options schema enumerations routines =
      graphWith adapter options schema [] [] >>= fun graph =>
        return { graph with enumerations, routines } := by
  simp only [graphWith, bind_assoc, pure_bind]

section Composed

variable {asks : {α : Type} → Inquiry α → Prop} {tells : Event → Prop}

theorem composed_probe {kind : Probe} {schema : String}
    (told : ∀ cause, tells (.probeFailed kind cause schema))
    {inquiry : Inquiry (List String)} (isAsked : asks inquiry) :
    (probe kind schema inquiry).Composed asks tells := by
  apply (Composed.ask isAsked).attempt.bind
  intro outcome
  cases outcome with
  | error cause => exact (Composed.tell (told cause)).bind fun _ => .pure []
  | ok names => exact .pure names

theorem composed_backedTables {adapter : Adapter} {schema : String}
    (told : ∀ kind cause, tells (.probeFailed kind cause schema))
    (sequences : asks (adapter.sequenceTables schema))
    (counters : asks (adapter.autoIncrementTables schema)) :
    (backedTables adapter schema).Composed asks tells :=
  (composed_probe (told _) sequences).bind fun _ =>
    (composed_probe (told _) counters).bind fun _ => .pure _

theorem composed_mergeViews (told : ∀ name, tells (.viewReplacesTable name))
    (tables : NameMap Relation) (views : List (String × Relation)) :
    (mergeViews tables views).Composed asks tells := by
  induction views generalizing tables with
  | nil => exact .pure tables
  | cons view rest ih =>
      obtain ⟨name, relation⟩ := view
      rw [mergeViews]
      split
      · exact (Composed.tell (told name)).bind fun _ => ih _
      · exact ih _

theorem composed_unusedKey (map : NameMap Place) (name : String)
    (patience : Nat) : (unusedKey map name patience).Composed asks tells := by
  induction patience with
  | zero => exact .givenUp name
  | succ patience ih =>
      apply Composed.draw.bind
      intro number
      dsimp only
      split
      · exact ih
      · exact .pure _

theorem composed_registerPlaces (map : NameMap Place)
    (named : List (String × Place)) :
    (registerPlaces map named).Composed asks tells := by
  induction named generalizing map with
  | nil => exact .pure map
  | cons first rest ih =>
      obtain ⟨name, place⟩ := first
      rw [registerPlaces]
      exact Composed.patience.bind fun patience =>
        (composed_unusedKey map name patience).bind fun _ => ih _

variable {adapter : Adapter} {options : Options}
  (asked : Asks asks adapter options)

include asked

theorem composed_graphWith (schema : String) (enumerations : List Enumeration)
    (routines : List Routine) :
    (graphWith adapter options schema enumerations routines).Composed asks
      fun _ => True := by
  refine (composed_backedTables (fun _ _ => trivial) (asked.sequences schema)
    (asked.counters schema)).bind fun backed => ?_
  refine (Composed.ask (asked.relations _ _ _)).bind fun tables => ?_
  refine (Composed.reach trivial).bind fun _ => ?_
  refine (Composed.ask (asked.relations _ _ _)).bind fun views => ?_
  refine (Composed.reach trivial).bind fun _ => ?_
  refine (composed_mergeViews (fun _ => trivial) _ _).bind fun relations => ?_
  refine (Composed.reach trivial).bind fun _ => ?_
  refine (Composed.ask (asked.foreignKeys _ _)).bind fun owned => ?_
  refine (composed_registerPlaces _ _).bind fun foreignKeys => ?_
  refine (Composed.reach trivial).bind fun _ => ?_
  refine (Composed.ask (asked.indexes _ _)).bind fun ownedIndexes => ?_
  refine (Composed.reach trivial).bind fun _ => ?_
  refine (Composed.reach trivial).bind fun _ => ?_
  exact .pure _

theorem composed_graph :
    (graph adapter options).Composed asks fun _ => True := by
  rw [graph_eq]
  refine (Composed.ask asked.schema).bind fun schema => ?_
  refine (Composed.ask (asked.enumerations schema)).bind fun enumerations => ?_
  refine (Composed.reach trivial).bind fun _ => ?_
  refine (Composed.ask (asked.routines schema)).bind fun routines => ?_
  refine (Composed.reach trivial).bind fun _ => ?_
  exact composed_graphWith asked schema enumerations routines

end Composed

end SchemaAtlas.Build
