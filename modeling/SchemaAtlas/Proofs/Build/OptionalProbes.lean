import SchemaAtlas.Proofs.Build.AlikeBuilds
import SchemaAtlas.Proofs.Build.FailFast
import SchemaAtlas.Proofs.Build.TwoBuilds

/-!
# Optional probes

An engine has at most one probe of each kind.  A probe that cannot be carried
out or read reports no tables, and does not discard what the other one reports.
The primary keys of the tables that are reported are not manual, and nothing
else depends on the answers to the probes.
-/

namespace SchemaAtlas

open Catalog Inquiry

/-- The probe of a kind that an engine has, with its parameters. -/
def Engine.probe? (engine : Engine) (kind : Probe) (schema : String) :
    Option (CatalogQuery × List String) :=
  match engine, kind with
  | .sqlite, .sequence => some (Sqlite.Queries.sequences, [])
  | .sqlite, .autoIncrement => some (Sqlite.Queries.rowidTables, [])
  | .postgresql, .sequence | .cockroachdb, .sequence =>
    some (PostgreSql.Queries.sequences, [schema])
  | .cockroachdb, .autoIncrement =>
    some (CockroachDb.Queries.autoIncrement, [schema])
  | .mysql, .autoIncrement => some (MySql.Queries.autoIncrement, [schema])
  | .oracle, .autoIncrement => some (Oracle.Queries.identityTables, [schema])
  | _, _ => none

theorem Engine.topic_of_probe? {engine : Engine} {kind : Probe}
    {schema : String} {query : CatalogQuery} {parameters : List String}
    (probed : engine.probe? kind schema = some (query, parameters)) :
    query.topic.probe? = some kind := by
  cases engine <;> cases kind <;> cases probed <;> rfl

/-- The names that an answer to a probe reports: none if it cannot be read. -/
def namesReported (answer : Except DriverError (List Row)) : List String :=
  ((answer >>= fun rows => rows.mapM nameOfRow).toOption).getD []

/-- The tables that the probe of a kind reports, by the replies to queries. -/
def Engine.reported (engine : Engine)
    (replies : CatalogQuery → List String → Except DriverError (List Row))
    (kind : Probe) (schema : String) : List String :=
  match engine.probe? kind schema with
  | none => []
  | some (query, parameters) => namesReported (replies query parameters)

/-- The inquiry of an adapter for the probe of a kind. -/
def Adapter.probed (adapter : Adapter) : Probe → String → Inquiry (List String)
  | .sequence => adapter.sequenceTables
  | .autoIncrement => adapter.autoIncrementTables

theorem Adapter.probed_builtin (engine : Engine) (kind : Probe)
    (schema : String) :
    (builtin engine).probed kind schema =
      match engine.probe? kind schema with
      | none => pure []
      | some (query, parameters) => listOf nameOfRow query parameters := by
  cases engine <;> cases kind <;> rfl

def Engine.probeRequests (engine : Engine) (kind : Probe) (schema : String) :
    List Request :=
  (engine.probe? kind schema).toList.map fun (query, parameters) =>
    .query query parameters

/-- A name is among those that some probe reports which is answered with rows
that can be read. -/
def Engine.Reports (engine : Engine)
    (replies : CatalogQuery → List String → Except DriverError (List Row))
    (schema name : String) : Prop :=
  ∃ kind query parameters rows names,
    engine.probe? kind schema = some (query, parameters) ∧
    replies query parameters = .ok rows ∧
    rows.mapM nameOfRow = .ok names ∧ name ∈ names

theorem mem_namesReported_iff {answer : Except DriverError (List Row)}
    {name : String} :
    name ∈ namesReported answer ↔ ∃ rows names, answer = .ok rows ∧
      rows.mapM nameOfRow = .ok names ∧ name ∈ names := by
  cases answer with
  | error cause => simp [namesReported, bind, Except.bind, Except.toOption]
  | ok rows =>
      cases read : rows.mapM nameOfRow with
      | error cause =>
          simp [namesReported, bind, Except.bind, Except.toOption, read]
      | ok names =>
          simp [namesReported, bind, Except.bind, Except.toOption, read]

theorem Engine.reports_iff {engine : Engine}
    {replies : CatalogQuery → List String → Except DriverError (List Row)}
    {schema name : String} :
    engine.Reports replies schema name ↔
      ∃ kind, name ∈ engine.reported replies kind schema := by
  apply exists_congr
  intro kind
  rw [reported]
  cases engine.probe? kind schema with
  | none => simp
  | some probe =>
      obtain ⟨query, parameters⟩ := probe
      simp [mem_namesReported_iff]

namespace Build

open Recorded

section Probes

variable {engine : Engine} {schema : String}

/-- A probe finds what is reported, and asks its one query. -/
theorem probe_builtin (engine : Engine) (kind : Probe) (schema : String)
    (surroundings : Surroundings) (before : Journal) :
    ∃ made, probe kind schema ((Adapter.builtin engine).probed kind schema)
        surroundings before =
        (.ok (engine.reported (surroundings.connection.query before.requests)
          kind schema), made) ∧
      made.requests = engine.probeRequests kind schema ∧
      made.reached = none := by
  rw [probe_apply, Adapter.probed_builtin, Engine.reported,
    Engine.probeRequests]
  cases engine.probe? kind schema with
  | none => exact ⟨_, rfl, rfl, rfl⟩
  | some probe =>
      obtain ⟨query, parameters⟩ := probe
      dsimp only
      rw [listOf_eq_asking, asking, namesReported]
      generalize (surroundings.connection.query before.requests query
        parameters >>= fun rows => rows.mapM nameOfRow) = outcome
      cases outcome with
      | error cause => exact ⟨_, rfl, rfl, rfl⟩
      | ok names => exact ⟨_, rfl, rfl, rfl⟩

/-- Over a scripted connection the tables with generated keys are those that the
probes report. -/
theorem eq_reported_of_returns_backedTables
    {replies : CatalogQuery → List String → Except DriverError (List Row)}
    {execution : String → Except DriverError Unit} {surroundings : Surroundings}
    (scripted : surroundings.connection = .scripted replies execution)
    {backed : List String}
    (returns : (backedTables (Adapter.builtin engine) schema).Returns
      surroundings backed) :
    backed = engine.reported replies .sequence schema ++
      engine.reported replies .autoIncrement schema := by
  have found : ∀ {kind names},
      (probe kind schema ((Adapter.builtin engine).probed kind schema)).Returns
        surroundings names →
      names = engine.reported replies kind schema := by
    rintro kind names ⟨before, outcome⟩
    obtain ⟨_, run, _⟩ := probe_builtin engine kind schema surroundings before
    rw [run, scripted] at outcome
    cases outcome
    rfl
  obtain ⟨sequences, first, returns⟩ := returns_of_bind returns
  obtain ⟨counters, second, returns⟩ := returns_of_bind returns
  rw [eq_of_returns_pure returns, found first, found second]

variable {comparison : Comparison (List Request)} {here there : Surroundings}
  {backing : List String → List String → Prop}

theorem relates_probe (kind : Probe)
    (reports : ∀ before other, comparison.records before other →
      backing (engine.reported (here.connection.query before) kind schema)
        (engine.reported (there.connection.query other) kind schema)) :
    comparison.session.Relates here there backing
      (probe kind schema ((Adapter.builtin engine).probed kind schema))
      (probe kind schema ((Adapter.builtin engine).probed kind schema)) := by
  intro before other agree _ _
  obtain ⟨made, run, asked, reached⟩ :=
    probe_builtin engine kind schema here before
  obtain ⟨otherMade, otherRun, otherAsked, otherReached⟩ :=
    probe_builtin engine kind schema there other
  rw [run, otherRun]
  refine ⟨.values (reports _ _ agree.1), ?_, reached.trans otherReached.symm⟩
  rw [asked, otherAsked]
  exact comparison.sameRecord _

/-- What two builds learn from the probes is related if what each probe reports
is. -/
theorem relates_backedTables
    (reports : ∀ kind before other, comparison.records before other →
      backing (engine.reported (here.connection.query before) kind schema)
        (engine.reported (there.connection.query other) kind schema))
    (append : ∀ {first second more other}, backing first second →
      backing more other → backing (first ++ more) (second ++ other)) :
    comparison.session.Relates here there backing
      (backedTables (Adapter.builtin engine) schema)
      (backedTables (Adapter.builtin engine) schema) := by
  apply (relates_probe .sequence (reports .sequence)).bind
  intro sequences otherSequences areBacked
  apply (relates_probe .autoIncrement (reports .autoIncrement)).bind
  intro counters otherCounters alsoBacked
  exact .pure (append areBacked alsoBacked)

/-- Relations are loaded alike whatever is known about generated keys. -/
theorem relates_loadRelations_of_sameAnswers {engine : Engine}
    {topics : Topic → Prop} (options : Options)
    (same : comparison.SameAnswers topics here.connection there.connection)
    (aboutTables : topics .tables) (aboutColumns : topics .columns)
    (kind : RelationKind) {backed other : List String} :
    comparison.Relates here.connection there.connection
      (NameMap.Alike (Relation.Alike fun _ _ => True))
      (loadRelations (Adapter.builtin engine) options schema backed kind)
      (loadRelations (Adapter.builtin engine) options schema other kind) := by
  apply (same.relates
    ((Adapter.lists_tables engine _ _).reads aboutTables rfl)).bind_eq
  intro tables
  have loadsAlike : ∀ table again, table = again →
      comparison.Relates here.connection there.connection
        (Relation.Alike fun _ _ => True)
        (do
          let columns ← (Adapter.builtin engine).columns schema table.name
          return relationOf (Adapter.builtin engine) options schema kind
            backed table columns)
        (do
          let columns ← (Adapter.builtin engine).columns schema again.name
          return relationOf (Adapter.builtin engine) options schema kind
            other again columns) := by
    rintro table _ rfl
    apply (same.relates
      ((Adapter.lists_columns engine _ _).reads aboutColumns rfl)).bind_eq
    intro columns
    exact .pure ⟨rfl, trivial⟩
  apply (Comparison.Relates.mapM (List.forall₂_refl _) loadsAlike).bind
  intro relations others each
  exact .pure (alike_byNativeName each)

end Probes

/-- Builds over connections that differ in what they answer to the probes find
what is alike, whatever the probes report. -/
theorem findAlike_exact (engine : Engine) (options : Options)
    {here there : Surroundings}
    (same : Comparison.exact.SameAnswers (fun topic => topic.probe? = none)
      here.connection there.connection) :
    FindAlike .exact (fun _ _ => True) (fun _ _ => True)
      (Adapter.builtin engine) (Adapter.builtin engine) options here there where
  schema := same.relates (reads_schemaToLoad engine options rfl)
  enumerations schema :=
    same.relates (reads_loadEnumerations engine options schema rfl rfl)
  routines schema :=
    same.relates (reads_loadRoutines engine options schema rfl rfl rfl)
  backed _ := relates_backedTables (fun _ _ _ _ => trivial) fun _ _ => trivial
  relations _ _ _ _ kind :=
    relates_loadRelations_of_sameAnswers options same rfl rfl kind
  foreignKeys schema relations owner := by
    apply same.relates (reads_loadForeignKeys engine schema ?_ relations owner)
    rfl
  indexes schema relation := by
    apply same.relates
      (reads_loadIndexes engine options schema ?_ ?_ ?_ relation)
    all_goals rfl

end Build

/-- Runs whose errors have to be the same end with the same error or with values
that are related. -/
theorem Comparison.Outcomes.sameOutcome_of_eq {α β : Type}
    {comparison : Comparison (List Request)} {related wider : α → β → Prop}
    {left : Except Error α} {right : Except Error β}
    (outcomes : comparison.session.Outcomes related left right)
    (sameErrors : ∀ cause other, comparison.errors cause other → cause = other)
    (strengthen : ∀ {value other}, left = .ok value → right = .ok other →
      related value other → wider value other) :
    SameOutcome wider left right := by
  cases outcomes with
  | values areRelated => exact .values (strengthen rfl rfl areRelated)
  | @errors cause other agree =>
      obtain rfl : cause = other := sameErrors cause other agree
      exact .errors cause

/-- Runs that are compared exactly end with the same error or with values that
are related. -/
theorem Comparison.Outcomes.sameOutcome {α β : Type}
    {related wider : α → β → Prop} {left : Except Error α}
    {right : Except Error β}
    (outcomes : Comparison.exact.session.Outcomes related left right)
    (strengthen : ∀ {value other}, left = .ok value → right = .ok other →
      related value other → wider value other) :
    SameOutcome wider left right :=
  outcomes.sameOutcome_of_eq (fun _ _ same => same) strengthen

/-- Two relations differ in the flag of a manual primary key only. -/
def Relation.SameButManual (left right : Relation) : Prop :=
  { left with manualPrimaryKey := right.manualPrimaryKey } = right

/-- Two graphs differ in the flags of manual primary keys and in the keys of the
foreign keys only. -/
structure Graph.SameButManual (left right : Graph) : Prop where
  others : { left with
    relations := right.relations
    foreignKeys := right.foreignKeys } = right
  relations : left.relations.Alike Relation.SameButManual right.relations
  places : left.foreignKeys.values.Perm right.foreignKeys.values

/-- Two builds asked the same, reached the same phase, and led to the same error
or to graphs that differ in the flags of manual primary keys and in the keys of
the foreign keys only. -/
structure BuildReport.SameButManual (left right : BuildReport) : Prop where
  outcome : SameOutcome Graph.SameButManual left.outcome right.outcome
  requests : left.journal.requests = right.journal.requests
  phase : left.phase = right.phase

/-- The flags of a graph tell which relations no probe reports. -/
def Graph.FlagsReported (graph : Graph) (engine : Engine)
    (replies : CatalogQuery → List String → Except DriverError (List Row)) :
    Prop :=
  ∀ name relation, graph.relation? name = some relation →
    (relation.manualPrimaryKey = false ↔
      engine.Reports replies graph.schema relation.nativeName)

namespace Build.Course

variable {adapter : Adapter} {options : Options} {surroundings : Surroundings}
  (course : Course adapter options surroundings)

/-- A relation of the graph was loaded before it got its foreign keys and
indexes. -/
theorem exists_loaded_of_held {name : String} {relation : Relation}
    (held : course.graph.relation? name = some relation) :
    ∃ loaded keys indexes, course.relations.find? name = some loaded ∧
      relation = { loaded with foreignKeys := keys, indexes } := by
  rw [Graph.relation?, graph, relationsWithKeys, attachIndexes,
    NameMap.find?_map, attachForeignKeys, NameMap.find?_map,
    Option.map_eq_some_iff] at held
  obtain ⟨withKeys, isWithKeys, rfl⟩ := held
  obtain ⟨loaded, isLoaded, rfl⟩ := Option.map_eq_some_iff.mp isWithKeys
  exact ⟨loaded, _, _, isLoaded, rfl⟩

/-- The primary key of a relation is manual unless its table was reported. -/
theorem manualPrimaryKey_eq {name : String} {relation : Relation}
    (held : course.graph.relation? name = some relation) :
    relation.manualPrimaryKey =
      !course.backed.contains relation.nativeName := by
  obtain ⟨loaded, keys, indexes, isLoaded, rfl⟩ :=
    course.exists_loaded_of_held held
  obtain ⟨kind, table, columns, rfl⟩ := (course.every_relations isLoaded).loaded
  rw [relationOf_eq]
  rfl

theorem flagsReported {engine : Engine}
    {replies : CatalogQuery → List String → Except DriverError (List Row)}
    {execution : String → Except DriverError Unit}
    (known : adapter = Adapter.builtin engine)
    (scripted : surroundings.connection = .scripted replies execution) :
    course.graph.FlagsReported engine replies := by
  subst known
  intro name relation held
  rw [course.manualPrimaryKey_eq held, Engine.reports_iff,
    eq_reported_of_returns_backedTables scripted course.tablesBacked,
    Bool.not_eq_false', List.contains_iff_mem, List.mem_append]
  constructor
  · rintro (bySequence | byCounter)
    · exact ⟨.sequence, bySequence⟩
    · exact ⟨.autoIncrement, byCounter⟩
  · rintro ⟨kind, reported⟩
    cases kind with
    | sequence => exact .inl reported
    | autoIncrement => exact .inr reported

end Build.Course

namespace GraphBuilder

open Build

variable {engine : Engine} {builder : GraphBuilder}

theorem engine_of_build {surroundings : Surroundings} {graph : Graph}
    (built : (builder.build surroundings).1.outcome = .ok graph) :
    graph.engine = builder.adapter.engine := by
  obtain ⟨course, rfl⟩ := exists_course_of_build built
  rfl

/-- Two builds over scripted connections that differ in what they answer to the
probes differ in the flags of manual primary keys and in the keys of the foreign
keys only, and the flags of each graph tell what the probes report. -/
theorem sameButManual_of_build
    (known : builder.adapter = Adapter.builtin engine)
    {replies otherReplies :
      CatalogQuery → List String → Except DriverError (List Row)}
    (sameElsewhere : ∀ query parameters, query.topic.probe? = none →
      replies query parameters = otherReplies query parameters)
    {execution otherExecution : String → Except DriverError Unit}
    {here there : Surroundings}
    (scripted : here.connection = .scripted replies execution)
    (otherScripted :
      there.connection = .scripted otherReplies otherExecution)
    (ends : SearchEnds (builder.build here).1.outcome)
    (otherEnds : SearchEnds (builder.build there).1.outcome) :
    (builder.build here).1.SameButManual (builder.build there).1 ∧
      (∀ graph, (builder.build here).1.outcome = .ok graph →
        graph.FlagsReported engine replies) ∧
      ∀ graph, (builder.build there).1.outcome = .ok graph →
        graph.FlagsReported engine otherReplies := by
  have same : Comparison.exact.SameAnswers (fun topic => topic.probe? = none)
      here.connection there.connection := by
    intro before other _ query parameters noProbe
    rw [scripted, otherScripted]
    exact sameElsewhere query parameters noProbe
  have find := findAlike_exact engine builder.options same
  rw [← known] at find
  have runs := runs_of_findAlike find ends otherEnds
  have flags : ∀ {replies execution surroundings graph},
      surroundings.connection = .scripted replies execution →
      (builder.build surroundings).1.outcome = .ok graph →
        graph.FlagsReported engine replies := by
    intro replies execution surroundings graph scripted built
    obtain ⟨course, rfl⟩ := exists_course_of_build built
    exact course.flagsReported known scripted
  refine ⟨?_, fun _ => flags scripted, fun _ => flags otherScripted⟩
  constructor
  case requests => exact runs.record.1
  case phase => exact congrArg (·.getD .init) runs.record.2
  case outcome =>
    apply runs.outcome.sameOutcome
    intro graph other built otherBuilt alike
    have sameEngine : graph.engine = other.engine :=
      (engine_of_build built).trans (engine_of_build otherBuilt).symm
    refine ⟨?_, ?_, alike.places⟩
    · have others := alike.others
      rwa [← sameEngine] at others
    · exact alike.relations.mono fun _ _ alike => alike.others

/-- The catalog of a depot, with the answers to the two probes. -/
def depotReplies (sequences counters : Except DriverError (List Row))
    (query : CatalogQuery) (parameters : List String) :
    Except DriverError (List Row) :=
  match query.topic with
  | .sequences => sequences
  | .rowidTables => counters
  | .tables =>
    if parameters = ["table"] then
      .ok [⟨[.text "parcel"]⟩, ⟨[.text "crate"]⟩]
    else .ok []
  | .columns =>
    .ok [⟨[.int 1, .text "id", .text "integer", .bool true, .null, .bool true]⟩]
  | _ => .ok []

/-- A session with the catalog of a depot that cannot list its sequences. -/
def lockedDepot : Surroundings where
  connection := .scripted
    (depotReplies (.error (.failure "locked")) (.ok [⟨[.text "crate"]⟩]))
    fun _ => .ok ()
  random := ⟨fun _ => 0, 1⟩

/-- A session with the catalog of a depot that reports a counter without the
name of its table. -/
def brokenDepot : Surroundings where
  connection := .scripted
    (depotReplies (.ok [⟨[.text "parcel"]⟩]) (.ok [⟨[.text "crate"]⟩, ⟨[]⟩]))
    fun _ => .ok ()
  random := ⟨fun _ => 0, 1⟩

theorem sameButManual_depot :
    ∃ graph other,
      ((new (.builtin .sqlite) .standard).build lockedDepot).1.outcome =
        .ok graph ∧
      ((new (.builtin .sqlite) .standard).build brokenDepot).1.outcome =
        .ok other ∧
      graph.relations.values.map Relation.manualPrimaryKey = [false, true] ∧
      other.relations.values.map Relation.manualPrimaryKey = [true, false] ∧
      ((new (.builtin .sqlite) .standard).build lockedDepot).1.SameButManual
        ((new (.builtin .sqlite) .standard).build brokenDepot).1 ∧
      graph.FlagsReported .sqlite (depotReplies (.error (.failure "locked"))
        (.ok [⟨[.text "crate"]⟩])) ∧
      other.FlagsReported .sqlite (depotReplies (.ok [⟨[.text "parcel"]⟩])
        (.ok [⟨[.text "crate"]⟩, ⟨[]⟩])) := by
  obtain ⟨graph, built, flags⟩ := exists_ok_of_view
    (show (((new (.builtin .sqlite) .standard).build
        lockedDepot).1.outcome.toOption.map fun graph =>
          graph.relations.values.map Relation.manualPrimaryKey) =
      some [false, true] by decide)
  obtain ⟨other, otherBuilt, otherFlags⟩ := exists_ok_of_view
    (show (((new (.builtin .sqlite) .standard).build
        brokenDepot).1.outcome.toOption.map fun graph =>
          graph.relations.values.map Relation.manualPrimaryKey) =
      some [true, false] by decide)
  have sameElsewhere : ∀ (query : CatalogQuery) (parameters : List String),
      query.topic.probe? = none →
      depotReplies (.error (.failure "locked")) (.ok [⟨[.text "crate"]⟩]) query
          parameters =
        depotReplies (.ok [⟨[.text "parcel"]⟩])
          (.ok [⟨[.text "crate"]⟩, ⟨[]⟩]) query parameters := by
    rintro ⟨topic, sql⟩ parameters noProbe
    cases topic with
    | sequences | rowidTables => cases noProbe
    | _ => rfl
  have known : (new (.builtin .sqlite) .standard).adapter =
      .builtin .sqlite := rfl
  have scripted : lockedDepot.connection = .scripted
      (depotReplies (.error (.failure "locked")) (.ok [⟨[.text "crate"]⟩]))
      fun _ => .ok () := rfl
  have otherScripted : brokenDepot.connection = .scripted
      (depotReplies (.ok [⟨[.text "parcel"]⟩])
        (.ok [⟨[.text "crate"]⟩, ⟨[]⟩])) fun _ => .ok () := rfl
  obtain ⟨sameButManual, reported, otherReported⟩ :=
    sameButManual_of_build known sameElsewhere scripted otherScripted
      (built ▸ .ok graph) (otherBuilt ▸ .ok other)
  exact ⟨graph, other, built, otherBuilt, flags, otherFlags, sameButManual,
    reported graph built, otherReported other otherBuilt⟩

end GraphBuilder

end SchemaAtlas
