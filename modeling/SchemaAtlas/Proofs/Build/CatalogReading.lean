import SchemaAtlas.Proofs.Build.PartRequests

/-!
# How a build reads the catalog

The log of a build that succeeds is known exactly.  Phase after phase it asks
for what there is, and then once for each part of that: for the labels of every
enumeration and the parameters of every routine, for the columns of every
relation that is listed, and, once the relations are merged, for their foreign
keys and for their indexes, in the order of their names.
-/

namespace SchemaAtlas

open Catalog

namespace Engine

variable (engine : Engine) (options : Options) (connection : Connection)
  (schema : String)

/-- The relations of a kind that are listed and not left out. -/
def listed (kind : RelationKind) : List TableRecord :=
  let adapter := Adapter.builtin engine
  ((adapter.tables schema (adapter.relationWord kind)).reported
    connection).filter fun table =>
      ¬Options.Names options.ignoredTables table.name

theorem listed_eq (kind : RelationKind) :
    engine.listed options connection schema kind =
      (((Adapter.builtin engine).tables schema
        ((Adapter.builtin engine).relationWord kind)).reported
          connection).filter fun table => !options.ignoresTable table.name := by
  simp only [listed, options.ignoresTable_eq, decide_not]

/-- What is asked for the enumerations of a schema. -/
def enumerationRequests : List Request :=
  let enums := (Adapter.builtin engine).enums schema
  enums.askedFirst connection ++
    (enums.reported connection).map fun record =>
      engine.labelRequest schema record.name

def routineRequests : List Request :=
  let routines := (Adapter.builtin engine).routines schema
  routines.askedFirst connection ++
    (routines.reported connection).map fun record =>
      engine.parameterRequest schema record.name

def relationRequests (kind : RelationKind) : List Request :=
  let adapter := Adapter.builtin engine
  (adapter.tables schema (adapter.relationWord kind)).askedFirst connection ++
    (engine.listed options connection schema kind).map fun table =>
      engine.columnRequest schema table.name

def indexRequests (relation : String) : List Request :=
  engine.indexRequest schema relation ::
    (((Adapter.builtin engine).indexes schema relation).reported
      connection).flatMap fun record =>
        [engine.indexColumnRequest schema relation record.name,
          engine.indexOrderRequest schema relation record.name]

/-- All that is asked in a build whose relations have the given names. -/
def reading (relations : List String) : List Request :=
  (Build.schemaToLoad (Adapter.builtin engine) options).askedFirst connection ++
    engine.enumerationRequests connection schema ++
    engine.routineRequests connection schema ++
    engine.probeRequests .sequence schema ++
    engine.probeRequests .autoIncrement schema ++
    engine.relationRequests options connection schema .table ++
    engine.relationRequests options connection schema .view ++
    relations.map (engine.foreignKeyRequest schema) ++
    relations.flatMap (engine.indexRequests connection schema)

end Engine

namespace Build

open Recorded Inquiry Session

section Phases

variable {engine : Engine} {options : Options} {schema : String}
  {replies : CatalogQuery → List String → Except DriverError (List Row)}
  {execution : String → Except DriverError Unit} {asked : List Request}

/-- What is listed first, if it is listed at all, and then asked about one by
one. -/
theorem asked_of_yields_listing {α β : Type} {lists : Bool}
    {listing : Inquiry (List α)} {step : α → Inquiry β} {request : α → Request}
    (reads : listing.Reads engine fun _ => True)
    (unlisted : lists = false →
      listing.askedFirst (.scripted replies execution) = [] ∧
        listing.reported (.scripted replies execution) = [])
    (each : lists = true → ∀ item before,
      (step item (.scripted replies execution) before).2 = [request item])
    {values : List β}
    (yields : (if lists then listing >>= fun items => items.mapM step
      else pure []).Yields (.scripted replies execution) values asked) :
    asked = listing.askedFirst (.scripted replies execution) ++
      (listing.reported (.scripted replies execution)).map request := by
  cases lists with
  | false =>
      rw [(unlisted rfl).1, (unlisted rfl).2]
      exact yields.pure.2
  | true =>
      obtain ⟨items, early, late, listed, asksEach, rfl⟩ := yields.bind
      have ofEach : late = items.flatMap fun item => [request item] := by
        apply asked_of_yields_mapM _ asksEach
        intro item value asked yieldsItem
        exact asked_of_yields (each rfl item) yieldsItem
      rw [ofEach, reads.eq_askedFirst listed, reads.eq_reported listed,
        ← List.map_eq_flatMap]
      rfl

private theorem asked_of_yields_loadEnumerations
    {enumerations : List Enumeration}
    (yields :
      (loadEnumerations (Adapter.builtin engine) options schema).Yields
        (.scripted replies execution) enumerations asked) :
    asked = engine.enumerationRequests (.scripted replies execution)
      schema := by
  apply asked_of_yields_listing (Adapter.reads_enums engine trivial schema) _ _
    yields
  · intro unlisted
    cases engine with
    | sqlite | oracle => exact ⟨rfl, rfl⟩
    | postgresql | cockroachdb | mysql => cases unlisted
  · intro lists record before
    rw [map_apply]
    exact Adapter.asked_enumLabels schema _ before lists record.name

private theorem asked_of_yields_loadRoutines {routines : List Routine}
    (yields : (loadRoutines (Adapter.builtin engine) options schema).Yields
      (.scripted replies execution) routines asked) :
    asked = engine.routineRequests (.scripted replies execution) schema := by
  apply asked_of_yields_listing
    (Adapter.reads_routines engine trivial trivial schema) _ _ yields
  · intro unlisted
    cases engine with
    | sqlite | oracle => exact ⟨rfl, rfl⟩
    | postgresql | cockroachdb | mysql => cases unlisted
  · intro lists record before
    rw [map_apply]
    exact Adapter.asked_routineParameters schema _ before lists record.name

private theorem asked_of_yields_loadRelations {backed : List String}
    {kind : RelationKind} {relations : NameMap Relation}
    (yields : (loadRelations (Adapter.builtin engine) options schema backed
      kind).Yields (.scripted replies execution) relations asked) :
    asked = engine.relationRequests options (.scripted replies execution) schema
      kind := by
  unfold loadRelations at yields
  obtain ⟨tables, early, late, listed, loads, rfl⟩ := yields.bind
  obtain ⟨loaded, asksEach, _⟩ := loads.map
  have reads : ((Adapter.builtin engine).tables schema
      ((Adapter.builtin engine).relationWord kind)).Reads engine
        fun _ => True :=
    (Adapter.lists_tables engine _ _).reads trivial rfl
  have ofEach : late = (tables.filter fun table =>
      !options.ignoresTable table.name).flatMap fun table =>
        [engine.columnRequest schema table.name] := by
    apply asked_of_yields_mapM _ asksEach
    intro table relation asked yieldsRelation
    obtain ⟨columns, yieldsColumns, _⟩ := yieldsRelation.map
    apply asked_of_yields _ yieldsColumns
    intro before
    exact Adapter.asked_columns engine schema _ before table.name
  rw [ofEach, reads.eq_askedFirst listed, reads.eq_reported listed,
    ← List.map_eq_flatMap, ← engine.listed_eq]
  rfl

private theorem asked_of_yields_loadForeignKeys {relations : NameMap Relation}
    {relation : Relation} {own : OwnedKeys} {connection : Connection}
    (yields : (loadForeignKeys (Adapter.builtin engine) schema relations
      relation).Yields connection own asked) :
    asked = [engine.foreignKeyRequest schema relation.nativeName] := by
  apply asked_of_yields _ yields
  intro before
  unfold loadForeignKeys
  refine (asked_bind_of_silent ?_ before).trans
    (Adapter.asked_foreignKeys engine schema _ _ before)
  intro records before
  rw [map_apply]
  rfl

private theorem asked_of_yields_loadIndex {relation : Relation}
    {record : IndexRecord} {index : Index} {connection : Connection}
    (yields : (loadIndex (Adapter.builtin engine) options schema relation
      record).Yields connection index asked) :
    asked =
      [engine.indexColumnRequest schema relation.nativeName record.name,
        engine.indexOrderRequest schema relation.nativeName record.name] := by
  unfold loadIndex at yields
  obtain ⟨columns, early, late, asksColumns, rest, rfl⟩ := yields.bind
  have ofColumns : early =
      [engine.indexColumnRequest schema relation.nativeName record.name] := by
    apply asked_of_yields _ asksColumns
    intro before
    exact Adapter.asked_indexColumns engine schema _ before _ _
  have ofOrder : late =
      [engine.indexOrderRequest schema relation.nativeName record.name] := by
    apply asked_of_yields _ rest
    intro before
    refine (asked_bind_of_silent ?_ before).trans
      (Adapter.asked_indexOrder engine schema _ before _ _)
    intro order before
    rw [map_apply]
    rfl
  rw [ofColumns, ofOrder]
  rfl

private theorem asked_of_yields_loadIndexes {relation : Relation}
    {own : OwnedIndexes}
    (yields : (loadIndexes (Adapter.builtin engine) options schema
      relation).Yields (.scripted replies execution) own asked) :
    asked = engine.indexRequests (.scripted replies execution) schema
      relation.nativeName := by
  unfold loadIndexes at yields
  obtain ⟨records, early, late, listed, loads, rfl⟩ := yields.bind
  obtain ⟨indexes, asksEach, _⟩ := loads.map
  have isFirst := asked_of_yields
    (fun before => Adapter.asked_indexes engine schema _ before _) listed
  have ofEach : late = records.flatMap fun record =>
      [engine.indexColumnRequest schema relation.nativeName record.name,
        engine.indexOrderRequest schema relation.nativeName record.name] := by
    apply asked_of_yields_mapM _ asksEach
    intro record index asked yieldsIndex
    exact asked_of_yields_loadIndex yieldsIndex
  rw [isFirst, ofEach,
    Reads.eq_reported (Adapter.reads_indexes engine trivial _ _) listed]
  rfl

section Sessions

variable {surroundings : Surroundings} {made : Journal}

private theorem requests_of_yields_probe {kind : Probe} {names : List String}
    (yields : (probe kind schema
      ((Adapter.builtin engine).probed kind schema)).Yields surroundings names
        made) :
    made.requests = engine.probeRequests kind schema := by
  obtain ⟨before, run⟩ := yields
  obtain ⟨other, probed, asked, _⟩ :=
    probe_builtin engine kind schema surroundings before
  rw [probed] at run
  cases run
  exact asked

private theorem requests_of_yields_backedTables {backed : List String}
    (yields : (backedTables (Adapter.builtin engine) schema).Yields surroundings
      backed made) :
    made.requests = engine.probeRequests .sequence schema ++
      engine.probeRequests .autoIncrement schema := by
  obtain ⟨sequences, early, late, first, rest, rfl⟩ := yields.bind
  obtain ⟨counters, second, _⟩ := rest.map
  rw [Journal.requests_append, @requests_of_yields_probe engine schema _ _
    .sequence _ first, @requests_of_yields_probe engine schema _ _
    .autoIncrement _ second]

theorem requests_of_yields_mergeViews {tables merged : NameMap Relation}
    {views : List (String × Relation)}
    (yields : (mergeViews tables views).Yields surroundings merged made) :
    made.requests = [] := by
  induction views generalizing tables made with
  | nil =>
      rw [mergeViews] at yields
      rw [yields.pure.2]
      rfl
  | cons view rest ih =>
      obtain ⟨name, view⟩ := view
      rw [mergeViews] at yields
      split at yields
      · obtain ⟨_, early, late, told, merges, rfl⟩ := yields.bind
        obtain ⟨before, run⟩ := told
        cases run
        rw [Journal.requests_append, ih merges]
        rfl
      · exact ih yields

end Sessions

private theorem asked_of_yields_resolveForeignKeys
    {relations : NameMap Relation}
    {owned : List OwnedKeys} {connection : Connection}
    (named : relations.Every fun name relation => relation.nativeName = name)
    (yields : (resolveForeignKeys (Adapter.builtin engine) options schema
      relations).Yields connection owned asked) :
    asked = relations.keys.map (engine.foreignKeyRequest schema) := by
  obtain ⟨loaded, asksEach, _⟩ := yields.map
  have ofEach := asked_of_yields_mapM
    (fun _ _ _ asks => asked_of_yields_loadForeignKeys asks) asksEach
  rw [ofEach, ← map_nativeName_values named, List.map_map,
    List.map_eq_flatMap]
  rfl

private theorem asked_of_yields_resolveIndexes {relations : NameMap Relation}
    {owned : List OwnedIndexes}
    (named : relations.Every fun name relation => relation.nativeName = name)
    (yields : (resolveIndexes (Adapter.builtin engine) options schema
      relations).Yields (.scripted replies execution) owned asked) :
    asked = relations.keys.flatMap
      (engine.indexRequests (.scripted replies execution) schema) := by
  have ofEach := asked_of_yields_mapM
    (fun _ _ _ asks => asked_of_yields_loadIndexes asks) yields
  rw [ofEach, ← map_nativeName_values named, List.flatMap_map]

theorem every_attachForeignKeys {relations : NameMap Relation}
    {owned : List OwnedKeys}
    (named : relations.Every fun name relation => relation.nativeName = name) :
    (attachForeignKeys relations owned).Every fun name relation =>
      relation.nativeName = name := by
  intro name relation found
  rw [attachForeignKeys, NameMap.find?_map, Option.map_eq_some_iff] at found
  obtain ⟨original, held, rfl⟩ := found
  exact (named held :)

theorem requests_of_yields_graph {surroundings : Surroundings}
    (scripted : surroundings.connection = .scripted replies execution)
    {result : Graph} {made : Journal}
    (yields : (graph (Adapter.builtin engine) options).Yields surroundings
      result made) :
    made.requests = engine.reading options surroundings.connection
      result.schema result.relations.keys := by
  obtain ⟨schema, _, _, findsSchema, afterSchema, log₁⟩ := yields_of_ask yields
  obtain ⟨enumerations, _, _, loadsEnums, afterEnums, log₂⟩ :=
    yields_of_ask afterSchema
  obtain ⟨_, afterPhase, log₃⟩ := yields_of_reach afterEnums
  obtain ⟨routines, _, _, loadsRoutines, afterRoutines, log₄⟩ :=
    yields_of_ask afterPhase
  obtain ⟨_, afterPhase, log₅⟩ := yields_of_reach afterRoutines
  obtain ⟨backed, _, _, probes, afterProbes, rfl⟩ := afterPhase.bind
  obtain ⟨tables, _, _, loadsTables, afterTables, log₆⟩ :=
    yields_of_ask afterProbes
  obtain ⟨_, afterPhase, log₇⟩ := yields_of_reach afterTables
  obtain ⟨views, _, _, loadsViews, afterViews, log₈⟩ :=
    yields_of_ask afterPhase
  obtain ⟨_, afterPhase, log₉⟩ := yields_of_reach afterViews
  obtain ⟨relations, _, _, merges, afterMerge, rfl⟩ := afterPhase.bind
  obtain ⟨_, afterPhase, log₁₀⟩ := yields_of_reach afterMerge
  obtain ⟨owned, _, _, resolvesKeys, afterKeys, log₁₁⟩ :=
    yields_of_ask afterPhase
  obtain ⟨foreignKeys, _, _, registers, afterRegister, rfl⟩ := afterKeys.bind
  obtain ⟨_, afterPhase, log₁₂⟩ := yields_of_reach afterRegister
  obtain ⟨ownedIndexes, _, _, resolvesIndexes, afterIndexes, log₁₃⟩ :=
    yields_of_ask afterPhase
  obtain ⟨_, afterPhase, log₁₄⟩ := yields_of_reach afterIndexes
  obtain ⟨_, afterPhase, log₁₅⟩ := yields_of_reach afterPhase
  obtain ⟨rfl, rfl⟩ := afterPhase.pure
  -- A relation is asked about under its own name, which is its key in the map.
  have named : relations.Every fun name relation =>
      relation.nativeName = name := by
    intro name relation found
    have loaded := every_of_returns_mergeViews merges.returns
      (every_of_returns_loadRelations loadsTables.returns)
      (fun view listed => every_of_returns_loadRelations loadsViews.returns
        (NameMap.mem_entries_iff.mp listed))
    exact (loaded found).named
  have sameKeys : (attachForeignKeys relations owned).keys = relations.keys :=
    NameMap.keys_map _ _
  have graphKeys : (attachIndexes (attachForeignKeys relations owned)
      ownedIndexes).keys = relations.keys :=
    (NameMap.keys_map _ _).trans sameKeys
  rw [scripted] at findsSchema loadsEnums loadsRoutines loadsTables loadsViews
  rw [scripted] at resolvesIndexes
  -- Neither the merge nor the search for keys asks anything.
  have backs := requests_of_yields_backedTables probes
  have replaces := requests_of_yields_mergeViews merges
  have draws := (searches_registerPlaces _ _).requests_of_yields registers
  rw [log₁, log₂, log₃, log₄, log₅, Journal.requests_append, log₆, log₇, log₈,
    log₉, Journal.requests_append, log₁₀, log₁₁, Journal.requests_append, log₁₂,
    log₁₃, log₁₄, log₁₅, backs, replaces, draws,
    Reads.eq_askedFirst (reads_schemaToLoad engine options trivial) findsSchema,
    asked_of_yields_loadEnumerations loadsEnums,
    asked_of_yields_loadRoutines loadsRoutines,
    asked_of_yields_loadRelations loadsTables,
    asked_of_yields_loadRelations loadsViews,
    asked_of_yields_resolveForeignKeys named resolvesKeys,
    asked_of_yields_resolveIndexes (every_attachForeignKeys named)
      resolvesIndexes, sameKeys]
  dsimp only
  rw [graphKeys, scripted]
  simp only [Engine.reading, List.append_assoc, List.nil_append,
    Journal.requests_none, List.append_nil]

end Phases

end Build

namespace Engine

open Request

variable (engine : Engine) (options : Options) (connection : Connection)
  (schema : String) {topics : List Topic}

/-- All that is asked for the parts of the objects of a schema. -/
def partRequests (relations : List String) : List Request :=
  let adapter := Adapter.builtin engine
  ((adapter.enums schema).reported connection).map
      (fun record => engine.labelRequest schema record.name) ++
    ((adapter.routines schema).reported connection).map
      (fun record => engine.parameterRequest schema record.name) ++
    (engine.listed options connection schema .table ++
      engine.listed options connection schema .view).map
      (fun table => engine.columnRequest schema table.name) ++
    relations.map (engine.foreignKeyRequest schema) ++
    relations.flatMap (engine.indexRequests connection schema)

/-- But for the parts, a build asks for listings and probes only. -/
theorem filter_reading (relations : List String)
    (ofParts : topics ⊆ Topic.ofParts) :
    (engine.reading options connection schema relations).filter
        (isAbout topics) =
      (engine.partRequests options connection schema relations).filter
        (isAbout topics) := by
  have ofSchema := filter_askedFirst connection
    (Build.reads_schemaToLoad engine options (by decide)) ofParts
  have ofEnums := filter_askedFirst connection
    (Adapter.reads_enums engine (by decide) schema) ofParts
  have ofRoutines := filter_askedFirst connection
    (Adapter.reads_routines engine (by decide) (by decide) schema) ofParts
  have ofTables := fun word => filter_askedFirst connection
    ((Adapter.lists_tables engine schema word).reads (by decide) rfl) ofParts
  simp only [reading, partRequests, enumerationRequests, routineRequests,
    relationRequests, List.filter_append, ofSchema, ofEnums, ofRoutines,
    ofTables, filter_probeRequests engine schema _ ofParts, List.map_append,
    List.nil_append, List.append_assoc]

theorem filter_indexRequests (relation : String) :
    (engine.indexRequests connection schema relation).filter
        (isAbout [.indexes, .indexColumns, .indexOrder]) =
      engine.indexRequests connection schema relation := by
  simp [indexRequests, List.filter_flatMap]

end Engine

namespace Build.Course

open Inquiry Recorded

variable {engine : Engine} {options : Options} {surroundings : Surroundings}
  (course : Course (Adapter.builtin engine) options surroundings)
  {replies : CatalogQuery → List String → Except DriverError (List Row)}
  {execution : String → Except DriverError Unit}
  (scripted : surroundings.connection = .scripted replies execution)

include scripted

theorem answered_enums
    (lists : (Adapter.builtin engine).capabilities.enums = true) :
    ((Adapter.builtin engine).enums course.schema).Answered
      surroundings.connection := by
  have returns := course.enumerationsLoaded
  rw [loadEnumerations, if_pos lists] at returns
  obtain ⟨records, found, _⟩ := returns_of_bind returns
  exact Reads.answered (Adapter.reads_enums engine trivial _) scripted found

theorem answered_routines
    (lists : (Adapter.builtin engine).capabilities.routines = true) :
    ((Adapter.builtin engine).routines course.schema).Answered
      surroundings.connection := by
  have returns := course.routinesLoaded
  rw [loadRoutines, if_pos lists] at returns
  obtain ⟨records, found, _⟩ := returns_of_bind returns
  exact Reads.answered (Adapter.reads_routines engine trivial trivial _)
    scripted found

theorem answered_tables (kind : RelationKind) :
    ((Adapter.builtin engine).tables course.schema
      ((Adapter.builtin engine).relationWord kind)).Answered
        surroundings.connection := by
  have loads : ∃ relations, (loadRelations (Adapter.builtin engine) options
      course.schema course.backed kind).Returns surroundings.connection
        relations := by
    cases kind with
    | table => exact ⟨_, course.tablesLoaded⟩
    | view => exact ⟨_, course.viewsLoaded⟩
  obtain ⟨relations, returns⟩ := loads
  obtain ⟨records, found, _⟩ := returns_of_bind returns
  exact Reads.answered ((Adapter.lists_tables engine _ _).reads trivial rfl)
    scripted found

theorem answered_indexes {name : String}
    (held : name ∈ course.graph.relations.keys) :
    ((Adapter.builtin engine).indexes course.schema name).Answered
      surroundings.connection := by
  rw [NameMap.mem_keys_iff, Option.isSome_iff_exists] at held
  obtain ⟨relation, found⟩ := held
  obtain ⟨own, owns, rfl, _⟩ := course.relation?_graph_iff.mp found
  obtain ⟨loaded, _, returns⟩ :=
    exists_mem_of_forall₂ (forall₂_of_returns_mapM course.indexesResolved) owns
  obtain ⟨sameRelation, _⟩ := of_returns_loadIndexes returns
  obtain ⟨records, found, _⟩ := returns_of_bind returns
  rw [sameRelation]
  exact Reads.answered (Adapter.reads_indexes engine trivial _ _) scripted found

end Build.Course

/-- A log reads a catalog for a graph in full and without repetition. -/
structure Engine.ReadsCatalog (engine : Engine) (options : Options)
    (connection : Connection) (graph : Graph) (requests : List Request) :
    Prop where
  ascending : graph.relations.keys.Pairwise (· < ·)
  log : requests =
    engine.reading options connection graph.schema graph.relations.keys
  enums : (Adapter.builtin engine).capabilities.enums = true →
    ((Adapter.builtin engine).enums graph.schema).Answered connection
  labels : requests.filter (Request.isAbout [.enumLabels]) =
    (((Adapter.builtin engine).enums graph.schema).reported connection).map
      fun record => engine.labelRequest graph.schema record.name
  routines : (Adapter.builtin engine).capabilities.routines = true →
    ((Adapter.builtin engine).routines graph.schema).Answered connection
  parameters : requests.filter (Request.isAbout [.routineParameters]) =
    (((Adapter.builtin engine).routines graph.schema).reported connection).map
      fun record => engine.parameterRequest graph.schema record.name
  tables : ∀ kind, ((Adapter.builtin engine).tables graph.schema
    ((Adapter.builtin engine).relationWord kind)).Answered connection
  columns : requests.filter (Request.isAbout [.columns]) =
    (engine.listed options connection graph.schema .table ++
      engine.listed options connection graph.schema .view).map
        fun table => engine.columnRequest graph.schema table.name
  foreignKeys : requests.filter (Request.isAbout [.foreignKeys]) =
    graph.relations.keys.map (engine.foreignKeyRequest graph.schema)
  indexes : ∀ relation ∈ graph.relations.keys,
    ((Adapter.builtin engine).indexes graph.schema relation).Answered connection
  indexParts : requests.filter
      (Request.isAbout [.indexes, .indexColumns, .indexOrder]) =
    graph.relations.keys.flatMap
      (engine.indexRequests connection graph.schema)

namespace GraphBuilder

open Build

variable {engine : Engine} {builder : GraphBuilder}
  {replies : CatalogQuery → List String → Except DriverError (List Row)}
  {execution : String → Except DriverError Unit} {surroundings : Surroundings}

/-- The log of a build that succeeds over a scripted connection. -/
theorem requests_of_build (known : builder.adapter = Adapter.builtin engine)
    (scripted : surroundings.connection = .scripted replies execution)
    {graph : Graph}
    (built : (builder.build surroundings).1.outcome = .ok graph) :
    (builder.build surroundings).1.journal.requests =
      engine.reading builder.options surroundings.connection graph.schema
        graph.relations.keys := by
  have yields : (Build.graph builder.adapter builder.options).Yields
      surroundings graph (builder.build surroundings).1.journal :=
    ⟨Journal.none, Prod.ext built rfl⟩
  rw [known] at yields
  exact requests_of_yields_graph scripted yields

/-- A build that succeeds over a scripted connection has read the catalog in
full and without repetition. -/
theorem readsCatalog_of_build (known : builder.adapter = Adapter.builtin engine)
    (scripted : surroundings.connection = .scripted replies execution)
    {graph : Graph}
    (built : (builder.build surroundings).1.outcome = .ok graph) :
    engine.ReadsCatalog builder.options surroundings.connection graph
      (builder.build surroundings).1.journal.requests := by
  rw [requests_of_build known scripted built]
  obtain ⟨adapter, options, phase⟩ := builder
  obtain rfl : adapter = Adapter.builtin engine := known
  obtain ⟨course, rfl⟩ := exists_course_of_build built
  constructor
  case ascending => exact course.graph.relations.sorted
  case log => rfl
  case enums => exact course.answered_enums scripted
  case routines => exact course.answered_routines scripted
  case tables => exact course.answered_tables scripted
  case indexes => exact fun relation => course.answered_indexes scripted
  case labels | parameters | columns | foreignKeys =>
    rw [engine.filter_reading _ _ _ _ (by decide)]
    simp [Engine.partRequests, Engine.indexRequests, List.filter_map,
      List.filter_flatMap, Function.comp_def]
  case indexParts =>
    rw [engine.filter_reading _ _ _ _ (by decide)]
    simp [Engine.partRequests, engine.filter_indexRequests, List.filter_map,
      List.filter_flatMap, Function.comp_def]

/-- The catalog of a museum, in which a view replaces the table of paintings. -/
def museumReplies (query : CatalogQuery) (parameters : List String) :
    Except DriverError (List Row) :=
  match query.topic, parameters with
  | .schema, _ => .ok [⟨[.text "public"]⟩]
  | .enums, _ => .ok [⟨[.text "medium"]⟩]
  | .enumLabels, ["public", "medium"] => .ok [⟨[.text "oil", .int 1]⟩]
  | .routineResultsExist, _ => .ok [⟨[.bool true]⟩]
  | .routines, _ => .ok [⟨[.text "appraise", .text "bigint"]⟩]
  | .tables, ["public", "r"] =>
    .ok [⟨[.text "visit", .null]⟩, ⟨[.text "painting", .null]⟩,
      ⟨[.text "draft", .null]⟩]
  | .tables, ["public", "v"] => .ok [⟨[.text "painting", .null]⟩]
  | .columns, _ =>
    .ok [⟨[.int 1, .text "id", .text "bigint", .bool true, .null, .bool true,
      .null]⟩]
  | .indexes, ["public", "visit"] =>
    .ok [⟨[.text "visit_pkey", .bool true, .bool true]⟩]
  | .indexColumns, ["public", "visit_pkey"] =>
    .ok [⟨[.int 0, .int 1, .text "id"]⟩]
  | .indexOrder, ["public", "visit_pkey"] => .ok [⟨[.text "1"]⟩]
  | _, _ => .ok []

def museum : Surroundings where
  connection := .scripted museumReplies fun _ => .ok ()
  random := ⟨fun _ => 0, 0⟩

def withoutDrafts : Options :=
  { Options.standard with ignoredTables := ["Draft"] }

theorem readsCatalog_museum :
    ∃ graph,
      ((new .postgresql withoutDrafts).build museum).1.outcome = .ok graph ∧
      graph.relations.keys = ["painting", "visit"] ∧
      Engine.postgresql.ReadsCatalog withoutDrafts museum.connection graph
        ((new .postgresql withoutDrafts).build museum).1.journal.requests ∧
      ((new .postgresql withoutDrafts).build
          museum).1.journal.requests.filter (Request.isAbout Topic.ofParts) =
        [.query PostgreSql.Queries.enumLabels ["public", "medium"],
          .query PostgreSql.Queries.routineParameters ["public", "appraise"],
          .query PostgreSql.Queries.columns ["public", "visit"],
          .query PostgreSql.Queries.columns ["public", "painting"],
          .query PostgreSql.Queries.columns ["public", "painting"],
          .query PostgreSql.Queries.foreignKeys ["public", "painting"],
          .query PostgreSql.Queries.foreignKeys ["public", "visit"],
          .query PostgreSql.Queries.indexes ["public", "painting"],
          .query PostgreSql.Queries.indexes ["public", "visit"],
          .query PostgreSql.Queries.indexColumns ["public", "visit_pkey"],
          .query PostgreSql.Queries.indexOrder ["public", "visit_pkey"]] := by
  obtain ⟨graph, built, keys⟩ := exists_ok_of_view
    (show (((new .postgresql withoutDrafts).build
        museum).1.outcome.toOption.map fun graph => graph.relations.keys) =
      some ["painting", "visit"] by decide +kernel)
  have reads := @readsCatalog_of_build .postgresql
    (new .postgresql withoutDrafts) museumReplies (fun _ => .ok ()) museum rfl
    rfl graph built
  refine ⟨graph, built, keys, ?_, ?_⟩
  · exact reads
  · rfl

end GraphBuilder

end SchemaAtlas
