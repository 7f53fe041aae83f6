import SchemaAtlas.Build.Builder
import SchemaAtlas.Proofs.Exchange.Returning

/-!
# The course of a successful build

A build that succeeds has passed through all of its phases.  Its course holds
what each phase handed to the next one, together with the fact that the phase
can return it; the graph is put together from these parts.
-/

namespace SchemaAtlas

namespace Build

/-- What the phases of a successful build hand to one another. -/
structure Course (adapter : Adapter) (options : Options)
    (surroundings : Surroundings) where
  schema : String
  enumerations : List Enumeration
  routines : List Routine
  backed : List String
  tables : NameMap Relation
  views : NameMap Relation
  relations : NameMap Relation
  ownedKeys : List OwnedKeys
  foreignKeys : NameMap Place
  ownedIndexes : List OwnedIndexes
  schemaFound :
    (schemaToLoad adapter options).Returns surroundings.connection schema
  enumerationsLoaded :
    (loadEnumerations adapter options schema).Returns surroundings.connection
      enumerations
  routinesLoaded :
    (loadRoutines adapter options schema).Returns surroundings.connection
      routines
  tablesBacked : (backedTables adapter schema).Returns surroundings backed
  tablesLoaded :
    (loadRelations adapter options schema backed .table).Returns
      surroundings.connection tables
  viewsLoaded :
    (loadRelations adapter options schema backed .view).Returns
      surroundings.connection views
  viewsMerged :
    (mergeViews tables views.entries).Returns surroundings relations
  keysResolved :
    (resolveForeignKeys adapter options schema relations).Returns
      surroundings.connection ownedKeys
  keysRegistered :
    (registerPlaces .empty (namedPlaces ownedKeys)).Returns surroundings
      foreignKeys
  indexesResolved :
    (resolveIndexes adapter options schema
        (attachForeignKeys relations ownedKeys)).Returns
      surroundings.connection ownedIndexes

namespace Course

variable {adapter : Adapter} {options : Options} {surroundings : Surroundings}

/-- The relations once their foreign keys are known. -/
def relationsWithKeys (course : Course adapter options surroundings) :
    NameMap Relation :=
  attachForeignKeys course.relations course.ownedKeys

/-- The graph that a build ends with. -/
def graph (course : Course adapter options surroundings) : Graph where
  schema := course.schema
  engine := adapter.engine
  enumerations := course.enumerations
  routines := course.routines
  relations := attachIndexes course.relationsWithKeys course.ownedIndexes
  foreignKeys := course.foreignKeys
  indexes := indexMap course.ownedIndexes

end Course

open Recorded Session

theorem exists_course_of_returns {adapter : Adapter} {options : Options}
    {surroundings : Surroundings} {graph : Graph}
    (returns : (Build.graph adapter options).Returns surroundings graph) :
    ∃ course : Course adapter options surroundings, course.graph = graph := by
  obtain ⟨schema, schemaFound, returns⟩ := returns_of_bind returns
  obtain ⟨enumerations, enumerationsLoaded, returns⟩ := returns_of_bind returns
  obtain ⟨_, _, returns⟩ := returns_of_bind returns
  obtain ⟨routines, routinesLoaded, returns⟩ := returns_of_bind returns
  obtain ⟨_, _, returns⟩ := returns_of_bind returns
  obtain ⟨backed, tablesBacked, returns⟩ := returns_of_bind returns
  obtain ⟨tables, tablesLoaded, returns⟩ := returns_of_bind returns
  obtain ⟨_, _, returns⟩ := returns_of_bind returns
  obtain ⟨views, viewsLoaded, returns⟩ := returns_of_bind returns
  obtain ⟨_, _, returns⟩ := returns_of_bind returns
  obtain ⟨relations, viewsMerged, returns⟩ := returns_of_bind returns
  obtain ⟨_, _, returns⟩ := returns_of_bind returns
  obtain ⟨ownedKeys, keysResolved, returns⟩ := returns_of_bind returns
  obtain ⟨foreignKeys, keysRegistered, returns⟩ := returns_of_bind returns
  obtain ⟨_, _, returns⟩ := returns_of_bind returns
  obtain ⟨ownedIndexes, indexesResolved, returns⟩ := returns_of_bind returns
  obtain ⟨_, _, returns⟩ := returns_of_bind returns
  obtain ⟨_, _, returns⟩ := returns_of_bind returns
  refine ⟨{
    schema, enumerations, routines, backed, tables, views, relations, ownedKeys,
    foreignKeys, ownedIndexes, tablesBacked, viewsMerged, keysRegistered
    schemaFound := returns_of_ask schemaFound
    enumerationsLoaded := returns_of_ask enumerationsLoaded
    routinesLoaded := returns_of_ask routinesLoaded
    tablesLoaded := returns_of_ask tablesLoaded
    viewsLoaded := returns_of_ask viewsLoaded
    keysResolved := returns_of_ask keysResolved
    indexesResolved := returns_of_ask indexesResolved }, ?_⟩
  exact (eq_of_returns_pure returns).symm

/-- A call reports the run of a build, and leaves the builder in the phase that
was reached. -/
theorem build_eq (builder : GraphBuilder) (surroundings : Surroundings) :
    builder.build surroundings =
      let run := graph builder.adapter builder.options surroundings Journal.none
      let phase := run.2.reached.getD .init
      (⟨run.1, run.2, phase⟩, ⟨builder.adapter, builder.options, phase⟩) := by
  rw [GraphBuilder.build]

theorem outcome_build (builder : GraphBuilder) (surroundings : Surroundings) :
    (builder.build surroundings).1.outcome =
      (graph builder.adapter builder.options surroundings Journal.none).1 := by
  rw [build_eq]

theorem journal_build (builder : GraphBuilder) (surroundings : Surroundings) :
    (builder.build surroundings).1.journal =
      (graph builder.adapter builder.options surroundings Journal.none).2 := by
  rw [build_eq]

theorem phase_build (builder : GraphBuilder) (surroundings : Surroundings) :
    (builder.build surroundings).1.phase =
      (builder.build surroundings).1.journal.reached.getD .init := by
  rw [build_eq]

/-- The graph of a successful build has a course. -/
theorem exists_course_of_build {builder : GraphBuilder}
    {surroundings : Surroundings} {graph : Graph}
    (built : (builder.build surroundings).1.outcome = .ok graph) :
    ∃ course : Course builder.adapter builder.options surroundings,
      course.graph = graph :=
  exists_course_of_returns ⟨Journal.none, outcome_build builder _ ▸ built⟩

/-- What is viewed of the fields of a relation is viewed of one of them. -/
theorem exists_field_of_view {outcome : Except Error Graph} {α : Type}
    {view : Field → α} {schema name : String} {seen : List α}
    (viewed : (outcome.toOption.map fun graph =>
      (graph.schema, (graph.relation? name).map fun relation =>
        relation.fields.map view)) = some (schema, some seen))
    {item : α} (listed : item ∈ seen) :
    ∃ graph relation field, outcome = .ok graph ∧ graph.schema = schema ∧
      graph.relation? name = some relation ∧ field ∈ relation.fields ∧
      view field = item := by
  obtain ⟨graph, built, viewed⟩ := exists_ok_of_view viewed
  rw [Prod.mk.injEq, Option.map_eq_some_iff] at viewed
  obtain ⟨sameSchema, relation, held, rfl⟩ := viewed
  obtain ⟨field, membership, same⟩ := List.mem_map.mp listed
  exact ⟨graph, relation, field, built, sameSchema, held, membership, same⟩

end Build

end SchemaAtlas
