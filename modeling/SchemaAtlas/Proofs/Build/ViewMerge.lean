import SchemaAtlas.Proofs.Build.CatalogReading
import SchemaAtlas.Proofs.Build.Composition
import SchemaAtlas.Proofs.Typing.JsonColumns

/-!
# Merging views into tables

The relations of a graph are those that are listed.  Of several rows of a
listing that are of one name, the last is kept, and a view is kept before any
table.  A build warns of each name that is listed both ways once, in the order
of the names, and between the phases in which views are loaded and merged.
-/

namespace SchemaAtlas

open Catalog

/-- The relation that a warning is about which says that a view replaced its
table. -/
def Event.replaced? (event : Event) : Option String :=
  if event.level = "warn" ∧
      event.message = "view replaces table of the same name" then
    event.details.lookup "relation"
  else none

@[simp] theorem Event.replaced?_viewReplacesTable (name : String) :
    (viewReplacesTable name).replaced? = some name := rfl

@[simp] theorem Event.replaced?_phaseReached (phase : Phase) (schema : String) :
    (phaseReached phase schema).replaced? = none := rfl

theorem Event.replaced?_probeFailed (kind : Probe) (cause : Error)
    (schema : String) : (probeFailed kind cause schema).replaced? = none := by
  cases kind <;> rfl

/-- A row of a listing is the last of its name. -/
def Catalog.TableRecord.LastIn (tables : List TableRecord)
    (table : TableRecord) : Prop :=
  ∃ early late, tables = early ++ table :: late ∧
    ∀ later ∈ late, later.name ≠ table.name

theorem Catalog.TableRecord.LastIn.find?_reverse {tables : List TableRecord}
    {table : TableRecord} (last : table.LastIn tables) :
    (tables.reverse.find? fun other => other.name == table.name) =
      some table := by
  obtain ⟨early, late, rfl, different⟩ := last
  have notLater :
      (late.reverse.find? fun other => other.name == table.name) = none := by
    simpa using different
  simp [List.find?_append, notLater]

theorem Catalog.TableRecord.LastIn.mem {tables : List TableRecord}
    {table : TableRecord} (last : table.LastIn tables) : table ∈ tables := by
  obtain ⟨early, late, rfl, _⟩ := last
  simp

/-- A field stands for a column: it is named after it, and its type is the one
that the type of the column resolves to, or the name of the column where an
option says so of JSON. -/
structure Field.StandsFor (field : Field) (engine : Engine) (options : Options)
    (schema : String) (column : ColumnRecord) : Prop where
  made : field.column = column
  named : field.name = options.initialisms.camel column.name
  typed : field.type =
    (Adapter.builtin engine).resolve (options.typeContext schema)
      (if options.jsonColumnTypes ∧ engine.SpeaksPostgres ∧ column.HoldsJson
        then column.name else column.nativeType) column.nullable

/-- A relation is loaded from a row of a listing: it holds what the row says,
and a field for each column that is reported and not left out, in their order.
Its foreign keys and indexes are found later. -/
structure Engine.Loads (engine : Engine) (options : Options)
    (connection : Connection) (schema : String) (kind : RelationKind)
    (table : TableRecord) (relation : Relation) : Prop where
  named : relation.name = options.initialisms.singularCamel table.name
  inSchema : relation.schema = schema
  ofKind : relation.kind = kind
  made : relation.table = table
  commented : relation.comment = table.comment
  manual : relation.manualPrimaryKey = true ↔
    table.name ∉ engine.reported (connection.query []) .sequence schema ++
      engine.reported (connection.query []) .autoIncrement schema
  fields : ∃ rows columns,
    connection.Answers (engine.columnRequest schema table.name) rows ∧
    List.Forall₂ engine.ReportsColumn rows columns ∧
    List.Forall₂
      (fun column field => field.StandsFor engine options schema column)
      (columns.filter fun column =>
        ¬Options.Names options.ignoredFields column.name) relation.fields

namespace Build

open Recorded Inquiry Session

section Merge

/-- What remains of tables and views that are merged: a view where there is
one. -/
theorem mergeViews_apply {tables : NameMap Relation}
    {views : List (String × Relation)} (distinct : (views.map Prod.fst).Nodup)
    (surroundings : Surroundings) (before : Journal) :
    mergeViews tables views surroundings before =
      (.ok (views.foldl (fun map (name, view) => map.insert name view) tables),
        { Journal.none with
          events := ((views.map Prod.fst).filter tables.contains).map
            .viewReplacesTable }) := by
  induction views generalizing tables before with
  | nil => rfl
  | cons view rest ih =>
      obtain ⟨name, view⟩ := view
      rw [List.map_cons, List.nodup_cons] at distinct
      -- What is inserted is not met again, so later views meet the same tables.
      have sameTables :
          (rest.map Prod.fst).filter (tables.insert name view).contains =
            (rest.map Prod.fst).filter tables.contains := by
        apply List.filter_congr
        intro other later
        have different : other ≠ name := by
          rintro rfl
          exact distinct.1 later
        rw [NameMap.contains, NameMap.find?_insert, if_neg different]
        rfl
      rw [mergeViews, List.map_cons, List.filter_cons]
      cases replaces : tables.contains name with
      | false =>
          rw [if_neg Bool.false_ne_true,
            if_neg Bool.false_ne_true, ← sameTables]
          exact ih distinct.2 before
      | true =>
          have told : Session.tell (.viewReplacesTable name)
              surroundings before =
            (.ok (), { Journal.none with
              events := [.viewReplacesTable name] }) := rfl
          rw [if_pos rfl, if_pos rfl, bind_of_ok told, ← sameTables]
          exact congrArg (fun run => (run.1, Record.append _ run.2))
            (ih distinct.2 _)

end Merge

/-- The events of a build that succeeds: those of the merge stand between two
phases, and nothing before or after them warns of a replaced table. -/
theorem exists_course_of_yields {adapter : Adapter} {options : Options}
    {surroundings : Surroundings} {graph : Graph} {made : Journal}
    (yields : (Build.graph adapter options).Yields surroundings graph made) :
    ∃ (course : Course adapter options surroundings) (merging : Journal)
      (early late : List Event),
      course.graph = graph ∧
      (mergeViews course.tables course.views.entries).Yields surroundings
        course.relations merging ∧
      made.events = early ++ .phaseReached .viewsLoaded course.schema ::
        (merging.events ++ .phaseReached .merged course.schema :: late) ∧
      (∀ event ∈ early, event.replaced? = none) ∧
      ∀ event ∈ late, event.replaced? = none := by
  unfold Build.graph at yields
  obtain ⟨schema, _, _, findsSchema, afterSchema, rfl⟩ :=
    journal_of_yields_ask yields
  obtain ⟨enumerations, _, _, loadsEnums, afterEnums, rfl⟩ :=
    journal_of_yields_ask afterSchema
  obtain ⟨_, withEnums, rfl⟩ := journal_of_yields_reach afterEnums
  obtain ⟨routines, _, _, loadsRoutines, afterRoutines, rfl⟩ :=
    journal_of_yields_ask withEnums
  obtain ⟨_, withRoutines, rfl⟩ := journal_of_yields_reach afterRoutines
  obtain ⟨backed, probing, _, probes, afterProbes, rfl⟩ := withRoutines.bind
  obtain ⟨tables, _, _, loadsTables, afterTables, rfl⟩ :=
    journal_of_yields_ask afterProbes
  obtain ⟨_, withTables, rfl⟩ := journal_of_yields_reach afterTables
  obtain ⟨views, _, _, loadsViews, afterViews, rfl⟩ :=
    journal_of_yields_ask withTables
  obtain ⟨_, withViews, rfl⟩ := journal_of_yields_reach afterViews
  obtain ⟨relations, merging, _, merges, afterMerge, rfl⟩ := withViews.bind
  obtain ⟨_, withMerge, rfl⟩ := journal_of_yields_reach afterMerge
  obtain ⟨ownedKeys, _, _, resolvesKeys, afterKeys, rfl⟩ :=
    journal_of_yields_ask withMerge
  obtain ⟨foreignKeys, registering, _, registers, afterRegister, rfl⟩ :=
    afterKeys.bind
  obtain ⟨_, withKeys, rfl⟩ := journal_of_yields_reach afterRegister
  obtain ⟨ownedIndexes, _, _, resolvesIndexes, afterIndexes, rfl⟩ :=
    journal_of_yields_ask withKeys
  obtain ⟨_, withIndexes, rfl⟩ := journal_of_yields_reach afterIndexes
  obtain ⟨_, atEnd, rfl⟩ := journal_of_yields_reach withIndexes
  obtain ⟨rfl, rfl⟩ := atEnd.pure
  have composedProbes : (backedTables adapter schema).Composed (fun _ => True)
      fun event => event.replaced? = none :=
    composed_backedTables (fun kind cause =>
      Event.replaced?_probeFailed kind cause schema) trivial trivial
  have composedSearch : (registerPlaces .empty (namedPlaces ownedKeys)).Composed
      (fun _ => True) fun event => event.replaced? = none :=
    composed_registerPlaces _ _
  have probesSilent := composedProbes.events_of_yields probes
  have searchSilent := composedSearch.events_of_yields registers
  refine ⟨{
    schema, enumerations, routines, backed, tables, views, relations, ownedKeys,
    foreignKeys, ownedIndexes
    schemaFound := findsSchema.returns
    enumerationsLoaded := loadsEnums.returns
    routinesLoaded := loadsRoutines.returns
    tablesBacked := probes.returns
    tablesLoaded := loadsTables.returns
    viewsLoaded := loadsViews.returns
    viewsMerged := merges.returns
    keysResolved := resolvesKeys.returns
    keysRegistered := registers.returns
    indexesResolved := resolvesIndexes.returns },
    merging,
    .phaseReached .enumsLoaded schema :: .phaseReached .routinesLoaded schema ::
      probing.events ++ [.phaseReached .tablesLoaded schema],
    registering.events ++ [.phaseReached .foreignKeysResolved schema,
      .phaseReached .indexesResolved schema, .phaseReached .done schema],
    rfl, merges, ?_, ?_, ?_⟩
  · simp
  · simpa [or_imp, forall_and] using probesSilent
  · simpa [or_imp, forall_and] using searchSilent

section Loads

variable (engine : Engine) (options : Options) (connection : Connection)
  (schema : String)

theorem standsFor_fieldOf (column : ColumnRecord) :
    (fieldOf (Adapter.builtin engine) options schema column).StandsFor engine
      options schema column where
  made := rfl
  named := rfl
  typed := by
    rw [← descriptorOf_builtin]
    rfl

/-- What is made of a row and of the columns that are found for it is loaded
from the row, also after foreign keys and indexes are attached. -/
theorem loads_of_eq_relationOf {kind : RelationKind} {table : TableRecord}
    {columns : List ColumnRecord} {relation : Relation}
    (found : ((Adapter.builtin engine).columns schema table.name).finding
      connection = .ok columns)
    (same : relation =
      { relationOf (Adapter.builtin engine) options schema kind
          (engine.reported (connection.query []) .sequence schema ++
            engine.reported (connection.query []) .autoIncrement schema)
          table columns with
        foreignKeys := relation.foreignKeys
        indexes := relation.indexes }) :
    engine.Loads options connection schema kind table relation := by
  obtain ⟨rows, answered, reports⟩ :=
    (Adapter.finding_columns_eq_ok_iff engine schema connection table.name).mp
      found
  rw [relationOf_eq] at same
  constructor
  case named | inSchema | ofKind | made | commented => rw [same]
  case manual =>
    rw [same]
    simp
  case fields =>
    refine ⟨rows, columns, answered, reports, ?_⟩
    rw [same, List.forall₂_map_right_iff]
    simp only [options.ignoresField_eq, decide_not]
    apply List.forall₂_same.mpr
    intro column _
    exact standsFor_fieldOf engine options schema column

end Loads

section Merge

variable {engine : Engine} {options : Options} {schema : String}
  {replies : CatalogQuery → List String → Except DriverError (List Row)}
  {execution : String → Except DriverError Unit} {connection : Connection}

/-- For each name the relation is loaded that is listed last. -/
theorem rel_lastListed_of_returns_loadRelations
    (scripted : connection = .scripted replies execution)
    {backed : List String} {kind : RelationKind} {relations : NameMap Relation}
    (returns : (loadRelations (Adapter.builtin engine) options schema backed
      kind).Returns connection relations) (name : String) :
    Option.Rel (fun table relation => ∃ columns,
        ((Adapter.builtin engine).columns schema table.name).finding
          connection = .ok columns ∧
        relation = relationOf (Adapter.builtin engine) options schema kind
          backed table columns)
      ((engine.listed options connection schema kind).reverse.find? fun table =>
        table.name == name)
      (relations.find? name) := by
  subst scripted
  obtain ⟨tables, found, returns⟩ := returns_of_bind returns
  obtain ⟨loaded, run, returns⟩ := returns_of_bind returns
  obtain ⟨_, yields⟩ := found.yields
  have reads : ((Adapter.builtin engine).tables schema
      ((Adapter.builtin engine).relationWord kind)).Reads engine
        fun _ => True :=
    (Adapter.lists_tables engine _ _).reads trivial rfl
  rw [reads.eq_reported yields, ← engine.listed_eq] at run
  rw [eq_of_returns_pure returns, find?_byNativeName]
  apply rel_find?_of_forall₂ (List.forall₂_reverse_iff.mpr
    ((forall₂_of_returns_mapM run).imp fun table relation returns => ?_))
  · rintro table _ ⟨columns, _, rfl⟩
    rw [nativeName_relationOf]
  · obtain ⟨columns, ⟨before, found⟩, returns⟩ := returns_of_bind returns
    have readsColumns : ((Adapter.builtin engine).columns schema
        table.name).Reads engine fun _ => True :=
      (Adapter.lists_columns engine _ _).reads trivial rfl
    refine ⟨columns, ?_, eq_of_returns_pure returns⟩
    rw [← readsColumns.steady before, found]

theorem isSome_find?_iff_of_returns_loadRelations
    (scripted : connection = .scripted replies execution)
    {backed : List String} {kind : RelationKind} {relations : NameMap Relation}
    (returns : (loadRelations (Adapter.builtin engine) options schema backed
      kind).Returns connection relations) (name : String) :
    (relations.find? name).isSome = true ↔
      ∃ table ∈ engine.listed options connection schema kind,
        table.name = name := by
  rw [← isSome_eq_of_rel
    (rel_lastListed_of_returns_loadRelations scripted returns name)]
  simp

end Merge

namespace Course

section Relations

variable {adapter : Adapter} {options : Options} {surroundings : Surroundings}
  (course : Course adapter options surroundings)

/-- A view takes the place of a table of its name. -/
theorem find?_relations (name : String) :
    course.relations.find? name =
      (course.views.find? name).or (course.tables.find? name) := by
  obtain ⟨before, merged⟩ := course.viewsMerged
  rw [mergeViews_apply course.views.nodup_keys] at merged
  rw [← Except.ok.inj merged, NameMap.find?_foldl_entries]

theorem rel_relation?_graph (name : String) :
    Option.Rel (fun merged relation => relation =
        { merged with
          foreignKeys := relation.foreignKeys
          indexes := relation.indexes })
      (course.relations.find? name) (course.graph.relation? name) := by
  rw [Graph.relation?, graph, relationsWithKeys, attachIndexes,
    NameMap.find?_map, attachForeignKeys, NameMap.find?_map]
  cases course.relations.find? name with
  | none => exact .none
  | some merged => exact .some rfl

end Relations

section Scripted

variable {engine : Engine} {options : Options} {surroundings : Surroundings}
  (course : Course (Adapter.builtin engine) options surroundings)
  {replies : CatalogQuery → List String → Except DriverError (List Row)}
  {execution : String → Except DriverError Unit}
  (scripted : surroundings.connection = .scripted replies execution)

include scripted

/-- What is merged under a name stands in the graph as it was loaded from its
last row. -/
theorem exists_loads_of_last {kind : RelationKind}
    {relations : NameMap Relation}
    (returns : (loadRelations (Adapter.builtin engine) options course.schema
      course.backed kind).Returns surroundings.connection relations)
    {table : TableRecord}
    (last : table.LastIn
      (engine.listed options surroundings.connection course.schema kind))
    (merged : course.relations.find? table.name = relations.find? table.name) :
    ∃ relation, course.graph.relation? table.name = some relation ∧
      engine.Loads options surroundings.connection course.schema kind table
        relation := by
  have lastLoaded :=
    rel_lastListed_of_returns_loadRelations scripted returns table.name
  rw [last.find?_reverse] at lastLoaded
  obtain ⟨loaded, isLoaded, columns, found, rfl⟩ :=
    exists_of_rel_some lastLoaded
  have inGraph := course.rel_relation?_graph table.name
  rw [merged, isLoaded] at inGraph
  obtain ⟨relation, held, same⟩ := exists_of_rel_some inGraph
  refine ⟨relation, held, loads_of_eq_relationOf engine options _ _ found ?_⟩
  rw [eq_reported_of_returns_backedTables scripted course.tablesBacked] at same
  rw [scripted]
  exact same

theorem mem_keys_graph_iff (name : String) :
    name ∈ course.graph.relations.keys ↔ ∃ kind,
      ∃ table ∈ engine.listed options surroundings.connection course.schema
        kind, table.name = name := by
  have sameNames : (course.graph.relations.find? name).isSome =
      (course.relations.find? name).isSome :=
    (isSome_eq_of_rel (course.rel_relation?_graph name)).symm
  rw [NameMap.mem_keys_iff, sameNames, course.find?_relations, Option.isSome_or,
    Bool.or_eq_true,
    isSome_find?_iff_of_returns_loadRelations scripted course.viewsLoaded,
    isSome_find?_iff_of_returns_loadRelations scripted course.tablesLoaded]
  constructor
  · rintro (isView | isTable)
    · exact ⟨.view, isView⟩
    · exact ⟨.table, isTable⟩
  · rintro ⟨kind, isListed⟩
    cases kind with
    | table => exact .inr isListed
    | view => exact .inl isListed

end Scripted

end Course

end Build

/-- A graph holds the relations that are listed, each as it was loaded from the
last row of its name, views before tables; and the events warn of the names that
are listed both ways, in the order of the names, between two phases. -/
structure Engine.MergesViews (engine : Engine) (options : Options)
    (connection : Connection) (graph : Graph) (events : List Event) : Prop where
  listings : ∀ kind, ∃ rows tables,
    let word := (Adapter.builtin engine).relationWord kind
    connection.Answers (engine.tableRequest graph.schema word) rows ∧
    List.Forall₂ (engine.ReportsTable word) rows tables ∧
    engine.listed options connection graph.schema kind =
      tables.filter fun table => ¬Options.Names options.ignoredTables table.name
  keys : ∀ name, name ∈ graph.relations.keys ↔ ∃ kind,
    ∃ table ∈ engine.listed options connection graph.schema kind,
      table.name = name
  views : ∀ view : TableRecord,
    view.LastIn (engine.listed options connection graph.schema .view) →
    ∃ relation, graph.relation? view.name = some relation ∧
      engine.Loads options connection graph.schema .view view relation
  tables : ∀ table : TableRecord,
    table.LastIn (engine.listed options connection graph.schema .table) →
    (∀ view ∈ engine.listed options connection graph.schema .view,
      view.name ≠ table.name) →
    ∃ relation, graph.relation? table.name = some relation ∧
      engine.Loads options connection graph.schema .table table relation
  warnings : ∃ (early late : List Event) (names : List String),
    events = early ++ .phaseReached .viewsLoaded graph.schema ::
      (names.map .viewReplacesTable ++
        .phaseReached .merged graph.schema :: late) ∧
    (∀ event ∈ early ++ late, event.replaced? = none) ∧
    names.Pairwise (· < ·) ∧
    ∀ name, name ∈ names ↔
      (∃ table ∈ engine.listed options connection graph.schema .table,
        table.name = name) ∧
      ∃ view ∈ engine.listed options connection graph.schema .view,
        view.name = name

namespace GraphBuilder

open Build Recorded

variable {engine : Engine} {builder : GraphBuilder}
  {replies : CatalogQuery → List String → Except DriverError (List Row)}
  {execution : String → Except DriverError Unit} {surroundings : Surroundings}

/-- A build that succeeds over a scripted connection has merged the views that
are listed into the tables. -/
theorem mergesViews_of_build (known : builder.adapter = Adapter.builtin engine)
    (scripted : surroundings.connection = .scripted replies execution)
    {graph : Graph}
    (built : (builder.build surroundings).1.outcome = .ok graph) :
    engine.MergesViews builder.options surroundings.connection graph
      (builder.build surroundings).1.journal.events := by
  have yields : (Build.graph builder.adapter builder.options).Yields
      surroundings graph (builder.build surroundings).1.journal :=
    ⟨Journal.none, Prod.ext ((outcome_build _ _).symm.trans built)
      (journal_build _ _).symm⟩
  obtain ⟨adapter, options, phase⟩ := builder
  obtain rfl : adapter = Adapter.builtin engine := known
  obtain ⟨course, merging, early, late, rfl, merges, told, noWarning,
    noWarningLate⟩ := exists_course_of_yields yields
  constructor
  case listings =>
    intro kind
    obtain ⟨rows, answered, reports⟩ := (Adapter.finding_tables_eq_ok_iff engine
      _ _ _).mp (course.answered_tables scripted kind)
    exact ⟨rows, _, answered, reports, rfl⟩
  case keys => exact course.mem_keys_graph_iff scripted
  case views =>
    intro view last
    have isListed := (isSome_find?_iff_of_returns_loadRelations scripted
      course.viewsLoaded view.name).mpr ⟨view, last.mem, rfl⟩
    apply course.exists_loads_of_last scripted course.viewsLoaded last
    rw [course.find?_relations, Option.or_of_isSome isListed]
  case tables =>
    intro table last noView
    have unlisted : ¬(course.views.find? table.name).isSome = true := by
      rw [isSome_find?_iff_of_returns_loadRelations scripted course.viewsLoaded]
      rintro ⟨view, isView, sameName⟩
      exact noView view isView sameName
    rw [Option.not_isSome_iff_eq_none] at unlisted
    apply course.exists_loads_of_last scripted course.tablesLoaded last
    rw [course.find?_relations, unlisted, Option.none_or]
  case warnings =>
    obtain ⟨before, run⟩ := merges
    rw [mergeViews_apply course.views.nodup_keys] at run
    obtain rfl := (Prod.mk.inj run).2
    refine ⟨early, late, course.views.keys.filter course.tables.contains, told,
      ?_, course.views.sorted.filter _, ?_⟩
    · exact List.forall_mem_append.mpr ⟨noWarning, noWarningLate⟩
    · intro name
      rw [List.mem_filter, NameMap.mem_keys_iff, NameMap.contains, and_comm,
        isSome_find?_iff_of_returns_loadRelations scripted course.viewsLoaded,
        isSome_find?_iff_of_returns_loadRelations scripted course.tablesLoaded]
      rfl

/-- The catalog of a gallery, which lists some names more than once. -/
def galleryReplies (query : CatalogQuery) (parameters : List String) :
    Except DriverError (List Row) :=
  match query.topic, parameters with
  | .schema, _ => .ok [⟨[.text "public"]⟩]
  | .tables, ["public", "r"] =>
    .ok [⟨[.text "visit", .null]⟩, ⟨[.text "frame", .text "old"]⟩,
      ⟨[.text "painting", .null]⟩, ⟨[.text "frame", .text "new"]⟩,
      ⟨[.text "draft", .null]⟩]
  | .tables, ["public", "v"] =>
    .ok [⟨[.text "visit", .text "daily"]⟩, ⟨[.text "painting", .text "hung"]⟩,
      ⟨[.text "visit", .text "weekly"]⟩, ⟨[.text "summary", .null]⟩]
  | .columns, ["public", "painting"] =>
    .ok [
      ⟨[.int 1, .text "title", .text "text", .bool true, .null, .bool false,
        .null]⟩,
      ⟨[.int 2, .text "notes", .text "text", .bool true, .null, .bool false,
        .null]⟩,
      ⟨[.int 3, .text "hung_on", .text "date", .bool false, .null, .bool false,
        .null]⟩]
  | .columns, ["public", "summary"] =>
    .ok [⟨[.int 1, .text "figures", .text "jsonb", .bool true, .null,
      .bool false, .null]⟩]
  | .columns, _ =>
    .ok [⟨[.int 1, .text "id", .text "bigint", .bool true, .null, .bool true,
      .null]⟩]
  | _, _ => .ok []

def gallery : Surroundings where
  connection := .scripted galleryReplies fun _ => .ok ()
  random := ⟨fun _ => 0, 0⟩

/-- Drafts and notes are ignored, and JSON gets types of its own. -/
def exhibited : Options :=
  { withoutDrafts with ignoredFields := ["NOTES"], jsonColumnTypes := true }

theorem mergesViews_gallery :
    ∃ graph,
      ((new .postgresql exhibited).build gallery).1.outcome = .ok graph ∧
      (graph.relations.values.map fun relation =>
          (relation.nativeName, relation.kind, relation.comment)) =
        [("frame", .table, some "new"), ("painting", .view, some "hung"),
          ("summary", .view, none), ("visit", .view, some "weekly")] ∧
      (graph.relations.values.map fun relation =>
          relation.fields.map fun field => (field.name, field.type.name)) =
        [[("ID", "i64")],
          [("Title", "String"), ("HungOn", "Option<chrono::NaiveDate>")],
          [("Figures", "Figures")], [("ID", "i64")]] ∧
      ((new .postgresql exhibited).build
        gallery).1.journal.events.filterMap Event.replaced? =
          ["painting", "visit"] ∧
      Engine.postgresql.MergesViews exhibited gallery.connection graph
        ((new .postgresql exhibited).build gallery).1.journal.events := by
  obtain ⟨graph, built, seen⟩ := exists_ok_of_view
    (show (((new .postgresql exhibited).build
        gallery).1.outcome.toOption.map fun graph =>
          (graph.relations.values.map fun relation =>
              (relation.nativeName, relation.kind, relation.comment),
            graph.relations.values.map fun relation =>
              relation.fields.map fun field => (field.name, field.type.name))) =
      some ([("frame", .table, some "new"), ("painting", .view, some "hung"),
          ("summary", .view, none), ("visit", .view, some "weekly")],
        [[("ID", "i64")],
          [("Title", "String"), ("HungOn", "Option<chrono::NaiveDate>")],
          [("Figures", "Figures")], [("ID", "i64")]])
      by decide +kernel)
  obtain ⟨relations, fields⟩ := Prod.mk.inj seen
  have merges := @mergesViews_of_build .postgresql
    (new .postgresql exhibited) galleryReplies (fun _ => .ok ()) gallery rfl
    rfl graph built
  refine ⟨graph, built, relations, fields, ?_, ?_⟩
  · decide +kernel
  · exact merges

end GraphBuilder

end SchemaAtlas
