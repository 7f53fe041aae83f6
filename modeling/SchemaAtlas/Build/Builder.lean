import SchemaAtlas.Build.ForeignKeys
import SchemaAtlas.Build.Indexes

/-!
# Building a graph

A build passes through its phases in order.  A failure ends it, and nothing of
the graph is handed out then.  A builder remembers the phase that its last build
reached.
-/

namespace SchemaAtlas

namespace Build

def graph (adapter : Adapter) (options : Options) : Session Graph := do
  let schema ← Session.ask (schemaToLoad adapter options)
  let enumerations ← Session.ask (loadEnumerations adapter options schema)
  Session.reach .enumsLoaded schema
  let routines ← Session.ask (loadRoutines adapter options schema)
  Session.reach .routinesLoaded schema
  let backed ← backedTables adapter schema
  let tables ← Session.ask (loadRelations adapter options schema backed .table)
  Session.reach .tablesLoaded schema
  let views ← Session.ask (loadRelations adapter options schema backed .view)
  Session.reach .viewsLoaded schema
  let relations ← mergeViews tables views.entries
  Session.reach .merged schema
  let owned ←
    Session.ask (resolveForeignKeys adapter options schema relations)
  let foreignKeys ← registerPlaces .empty (namedPlaces owned)
  let relations := attachForeignKeys relations owned
  Session.reach .foreignKeysResolved schema
  let ownedIndexes ←
    Session.ask (resolveIndexes adapter options schema relations)
  let relations := attachIndexes relations ownedIndexes
  Session.reach .indexesResolved schema
  Session.reach .done schema
  return {
    schema
    engine := adapter.engine
    enumerations
    routines
    relations
    foreignKeys
    indexes := indexMap ownedIndexes }

end Build

/-- What a build leads to: the graph or the error, what happened on the way, and
the phase that was reached. -/
structure BuildReport where
  outcome : Except Error Graph
  journal : Journal
  phase : Phase

structure GraphBuilder where
  adapter : Adapter
  options : Options
  phase : Phase

namespace GraphBuilder

/-- A builder that has built nothing yet. -/
def new (adapter : Adapter) (options : Options) : GraphBuilder :=
  ⟨adapter, options, .init⟩

/-- Build a graph, from the first phase on. -/
def build (builder : GraphBuilder) (surroundings : Surroundings) :
    BuildReport × GraphBuilder :=
  let (outcome, journal) :=
    Build.graph builder.adapter builder.options surroundings Journal.none
  let phase := journal.reached.getD .init
  (⟨outcome, journal, phase⟩, { builder with phase })

end GraphBuilder

end SchemaAtlas
