import SchemaAtlas.AdHoc.Query
import SchemaAtlas.Proofs.Build.OptionalProbes

/-!
# Builds with the adapters of CockroachDB and PostgreSQL

The adapter of CockroachDB is that of PostgreSQL but for two methods.  The
correction of foreign keys changes nothing where every constraint is named after
its column, and the query for counted keys decides about flags of manual primary
keys only.  What it finds for a statement does not depend on either.
-/

namespace SchemaAtlas

open Catalog

/-- Whether a request is anything but the query for counted keys. -/
def Request.isNotCounting : Request → Bool
  | .query asked _ => asked.topic != .autoIncrement
  | .execute _ => true

/-- The comparison of runs that do the same but for the query for counted keys,
and fail with the same error. -/
def Comparison.butCounting : Comparison (List Request) where
  records left right :=
    left.filter Request.isNotCounting = right.filter Request.isNotCounting
  errors := Eq
  sameRecord _ := rfl
  sameError _ := rfl
  append := by
    intro made other more further same sameMore
    show (made ++ more).filter _ = (other ++ further).filter _
    rw [List.filter_append, List.filter_append, same, sameMore]

/-- Two relations are the same, except that on the left the primary key is also
not manual where the relation is counted. -/
structure Relation.SameButCounted (counted : List String)
    (left right : Relation) : Prop where
  others : { left with manualPrimaryKey := right.manualPrimaryKey } = right
  flags : left.manualPrimaryKey =
    (right.manualPrimaryKey && !counted.contains right.nativeName)

/-- A graph of CockroachDB and one of PostgreSQL differ in the flags of counted
relations and in the keys of the foreign keys only. -/
structure Graph.SameButCounted (counted : List String) (left right : Graph) :
    Prop where
  engines : left.engine = .cockroachdb ∧ right.engine = .postgresql
  others : { left with
    engine := right.engine
    relations := right.relations
    foreignKeys := right.foreignKeys } = right
  relations : left.relations.Alike (Relation.SameButCounted counted)
    right.relations
  places : left.foreignKeys.values.Perm right.foreignKeys.values

/-- Two builds led to the same error or to graphs that differ in the engine, the
flags of counted relations and the keys of the foreign keys only.  They asked
the same but for the query for counted keys, and reached the same phase. -/
structure BuildReport.SameButCounted (counted : String → List String)
    (left right : BuildReport) : Prop where
  outcome : SameOutcome
    (fun graph other => graph.SameButCounted (counted graph.schema) other)
    left.outcome right.outcome
  requests : left.journal.requests.filter Request.isNotCounting =
    right.journal.requests.filter Request.isNotCounting
  phase : left.phase = right.phase

/-- Every constraint of a foreign key that is reported has the name of its
column in its own. -/
def MentionsColumns
    (replies : CatalogQuery → List String → Except DriverError (List Row)) :
    Prop :=
  ∀ parameters rows, replies PostgreSql.Queries.foreignKeys parameters =
    .ok rows →
    ∀ row ∈ rows, ∀ name column, row.text 0 = .ok name →
      row.text 1 = .ok column →
        Text.occursIn column.toList name.toList = true

/-- Two adapters treat statements alike: they write, resolve and strip them in
the same way, and ask the same about a view of a statement. -/
structure Adapter.AlikeForStatements (left right : Adapter) : Prop where
  placeholder : left.placeholder = right.placeholder
  resolve : left.resolve = right.resolve
  schemaName : left.schemaName = right.schemaName
  columns : left.columns = right.columns
  createView : left.createView = right.createView
  dropView : left.dropView = right.dropView
  viewSchema : left.viewSchema = right.viewSchema
  retypeQueryColumn : left.retypeQueryColumn = right.retypeQueryColumn
  stripQuery : left.stripQuery = right.stripQuery

namespace Adapter.AlikeForStatements

variable {left right : Adapter} (alike : left.AlikeForStatements right)

include alike

theorem queryColumns : left.queryColumns = right.queryColumns := by
  funext statement
  have sameDrop : View.drop left = View.drop right := by
    funext name
    rw [View.drop, View.drop, alike.dropView]
  have sameColumns : View.columnsOf left = View.columnsOf right := by
    funext name
    rw [View.columnsOf, View.columnsOf, alike.viewSchema, alike.columns]
  rw [Adapter.queryColumns, Adapter.queryColumns, View.during, View.during,
    alike.createView, alike.retypeQueryColumn, sameDrop, sameColumns]

/-- Such adapters make the same typed query of a statement. -/
theorem introspect (options : Options) (spec : QuerySpec) :
    TypedQuery.introspect left options spec =
      TypedQuery.introspect right options spec := by
  have sameSchema : Build.schemaToLoad left options =
      Build.schemaToLoad right options := by
    rw [Build.schemaToLoad, Build.schemaToLoad, alike.schemaName]
  have sameLines : TypedQuery.annotatedLines left spec =
      TypedQuery.annotatedLines right spec := by
    funext statement
    rw [TypedQuery.annotatedLines, TypedQuery.annotatedLines, alike.stripQuery]
  have sameField : TypedQuery.columnField left =
      TypedQuery.columnField right := by
    funext options schema allowNulls column
    rw [TypedQuery.columnField, TypedQuery.columnField, alike.resolve]
  have sameFields : TypedQuery.fields left options spec =
      TypedQuery.fields right options spec := by
    funext schema inspected
    rw [TypedQuery.fields, TypedQuery.fields, alike.queryColumns, sameField]
  rw [TypedQuery.introspect, TypedQuery.introspect, alike.placeholder,
    sameSchema, sameLines, sameFields]

end Adapter.AlikeForStatements

/-- What a typed query is made with is left to the adapter of PostgreSQL, or is
the default for both adapters. -/
theorem Adapter.alikeForStatements_cockroachdb :
    Adapter.cockroachdb.AlikeForStatements .postgresql where
  placeholder := rfl
  resolve := rfl
  schemaName := rfl
  columns := rfl
  createView := rfl
  dropView := rfl
  viewSchema := rfl
  retypeQueryColumn := rfl
  stripQuery := rfl

namespace Build

open Recorded Inquiry

section

variable
  {replies : CatalogQuery → List String → Except DriverError (List Row)}
  {execution : String → Except DriverError Unit} {here there : Surroundings}

/-- Behind a list of records it only matters what is done with records that can
be read from the answer. -/
theorem listOf_bind_congr {α β : Type} {read : Row → Except DriverError α}
    {query : CatalogQuery} {parameters : List String}
    {connection : Connection} {before : List Request}
    {next other : List α → Inquiry β}
    (same : ∀ rows values, connection.query before query parameters = .ok rows →
      rows.mapM read = .ok values → next values = other values) :
    (listOf read query parameters >>= next) connection before =
      (listOf read query parameters >>= other) connection before := by
  rw [listOf_eq_asking, bind_apply, bind_apply, asking]
  cases answered : connection.query before query parameters with
  | error cause => rfl
  | ok rows =>
      have lifted : (Except.ok rows >>= fun rows => rows.mapM read) =
          rows.mapM read := rfl
      rw [lifted]
      cases values : rows.mapM read with
      | error cause => rfl
      | ok records =>
          have sameNext := same rows records answered values
          simp only [liftDriver, Except.mapError, sameNext]

/-- Where constraints are named after their columns, no foreign key is taken for
a mistake. -/
theorem mentioningColumn_eq_self (mentions : MentionsColumns replies)
    {parameters : List String} {rows : List Row}
    {records : List ForeignKeyRecord}
    (replied : replies PostgreSql.Queries.foreignKeys parameters = .ok rows)
    (read : rows.mapM PostgreSql.foreignKeyOfRow = .ok records) :
    CockroachDb.mentioningColumn records = records := by
  apply List.filter_eq_self.mpr
  intro record membership
  obtain ⟨row, inRows, isRow⟩ := exists_mem_of_forall₂
    (forall₂_of_mapM_eq_ok read) membership
  obtain ⟨named, hasColumn, _⟩ :=
    (Engine.foreignKeyOfRow_eq_ok_iff .cockroachdb).mp isRow
  exact mentions _ _ replied row inRows _ _ (Row.text_eq_ok_iff.mpr named)
    (Row.text_eq_ok_iff.mpr hasColumn)

theorem loadForeignKeys_cockroachdb (mentions : MentionsColumns replies)
    (schema : String) (relations : NameMap Relation) (owner : Relation)
    (before : List Request) :
    loadForeignKeys .cockroachdb schema relations owner
        (.scripted replies execution) before =
      loadForeignKeys .postgresql schema relations owner
        (.scripted replies execution) before := by
  -- What both adapters do with the records, corrected or not.
  let next : List ForeignKeyRecord → Inquiry OwnedKeys := fun records => do
    let keys ← Recorded.ofExcept
      (records.mapM (resolveForeignKey schema relations owner))
    return ⟨owner, keys⟩
  change (listOf PostgreSql.foreignKeyOfRow PostgreSql.Queries.foreignKeys
      [schema, owner.nativeName] >>= fun records =>
        next (CockroachDb.mentioningColumn records))
      (.scripted replies execution) before =
    (listOf PostgreSql.foreignKeyOfRow PostgreSql.Queries.foreignKeys
      [schema, owner.nativeName] >>= next) (.scripted replies execution) before
  apply listOf_bind_congr
  intro rows records replied read
  rw [mentioningColumn_eq_self mentions replied read]

/-- PostgreSQL has no probe for counted keys, so only CockroachDB asks. -/
theorem relates_counters (schema : String) :
    Comparison.butCounting.session.Relates here there (fun _ _ => True)
      (probe .autoIncrement schema
        (Adapter.cockroachdb.autoIncrementTables schema))
      (probe .autoIncrement schema
        (Adapter.postgresql.autoIncrementTables schema)) := by
  intro before other _ _ _
  obtain ⟨made, run, asked, reached⟩ :=
    probe_builtin .cockroachdb .autoIncrement schema here before
  obtain ⟨otherMade, otherRun, otherAsked, otherReached⟩ :=
    probe_builtin .postgresql .autoIncrement schema there other
  change probe .autoIncrement schema
    (Adapter.cockroachdb.autoIncrementTables schema) here before = _ at run
  change probe .autoIncrement schema
    (Adapter.postgresql.autoIncrementTables schema) there other = _ at otherRun
  rw [run, otherRun]
  refine ⟨.values trivial, ?_, reached.trans otherReached.symm⟩
  change made.requests.filter _ = otherMade.requests.filter _
  rw [asked, otherAsked]
  rfl

/-- Over scripted connections that give the same replies, the two builds find
what is alike. -/
theorem findAlike_cockroachdb (mentions : MentionsColumns replies)
    (scripted : here.connection = .scripted replies execution)
    (otherScripted : there.connection = .scripted replies execution)
    (options : Options) :
    FindAlike .butCounting (fun _ _ => True) (fun _ _ => True) .cockroachdb
      .postgresql options here there := by
  have same : Comparison.butCounting.SameAnswers (fun _ => True)
      here.connection there.connection := by
    intro before other _ query parameters _
    rw [scripted, otherScripted]
    rfl
  constructor
  case schema =>
    exact same.relates (reads_schemaToLoad .postgresql options trivial)
  case enumerations =>
    intro schema
    exact same.relates
      (reads_loadEnumerations .postgresql options schema trivial trivial)
  case routines =>
    intro schema
    exact same.relates (reads_loadRoutines .postgresql options schema trivial
      trivial trivial)
  case backed =>
    intro schema
    have sequences : Comparison.butCounting.session.Relates here there
        (fun _ _ => True)
        (probe .sequence schema (Adapter.cockroachdb.sequenceTables schema))
        (probe .sequence schema (Adapter.postgresql.sequenceTables schema)) :=
      @relates_probe .postgresql schema _ here there _ .sequence
        fun _ _ _ => trivial
    apply sequences.bind
    intro names otherNames _
    apply (relates_counters schema).bind
    intro _ _ _
    exact .pure trivial
  case relations =>
    intro schema backed other _ kind
    exact @relates_loadRelations_of_sameAnswers schema _ here there .postgresql
      _ options same trivial trivial kind backed other
  case foreignKeys =>
    intro schema relations owner before other agree leftEnds rightEnds
    -- The only inquiry in which the adapters do different things.
    have runs := same.relates
      (reads_loadForeignKeys .postgresql schema trivial relations owner)
    rw [scripted, loadForeignKeys_cockroachdb mentions, ← scripted]
      at leftEnds ⊢
    exact runs before other agree leftEnds rightEnds
  case indexes =>
    intro schema relation
    exact same.relates (reads_loadIndexes .postgresql options schema trivial
      trivial trivial relation)

end

end Build

namespace GraphBuilder

open Build

variable
  {replies : CatalogQuery → List String → Except DriverError (List Row)}
  {execution : String → Except DriverError Unit} {here there : Surroundings}

def counted
    (replies : CatalogQuery → List String → Except DriverError (List Row))
    (schema : String) : List String :=
  namesReported (replies CockroachDb.Queries.autoIncrement [schema])

/-- Graphs that are alike differ in the flags as the counted tables say. -/
theorem sameButCounted_of_alike {options : Options}
    (left : Course Adapter.cockroachdb options here)
    (right : Course Adapter.postgresql options there)
    (scripted : here.connection = .scripted replies execution)
    (otherScripted : there.connection = .scripted replies execution)
    (alike : left.graph.Alike (fun _ _ => True) right.graph) :
    left.graph.SameButCounted (counted replies left.graph.schema)
      right.graph := by
  have sameSchema : left.schema = right.schema :=
    congrArg Graph.schema alike.others
  have backed : left.backed =
      namesReported (replies PostgreSql.Queries.sequences [left.schema]) ++
        counted replies left.schema :=
    @eq_reported_of_returns_backedTables .cockroachdb _ _ _ _ scripted _
      left.tablesBacked
  have otherBacked : right.backed =
      namesReported (replies PostgreSql.Queries.sequences [right.schema]) ++
        [] :=
    @eq_reported_of_returns_backedTables .postgresql _ _ _ _ otherScripted _
      right.tablesBacked
  refine ⟨⟨rfl, rfl⟩, alike.others, ?_, alike.places⟩
  intro name
  have atName := alike.relations name
  generalize held : left.graph.relations.find? name = found,
    otherHeld : right.graph.relations.find? name = otherFound at atName ⊢
  cases atName with
  | none => exact .none
  | @some relation other alikeHere =>
      refine .some ⟨alikeHere.others, ?_⟩
      rw [left.manualPrimaryKey_eq held, right.manualPrimaryKey_eq otherHeld,
        alikeHere.sameColumns.nativeName, backed, otherBacked, ← sameSchema,
        List.append_nil, List.contains_append, Bool.not_or]
      rfl

/-- Over scripted connections that give the same replies, where every constraint
is named after its column, the builds with the two adapters differ in the
engine, the flags of counted relations and the keys of the foreign keys only.  A
typed query is the same with both. -/
theorem sameButCounted_of_build (options : Options)
    (scripted : here.connection = .scripted replies execution)
    (otherScripted : there.connection = .scripted replies execution)
    (mentions : MentionsColumns replies)
    (ends : SearchEnds
      ((new .cockroachdb options).build here).1.outcome)
    (otherEnds : SearchEnds
      ((new .postgresql options).build there).1.outcome) :
    ((new .cockroachdb options).build here).1.SameButCounted
        (counted replies) ((new .postgresql options).build there).1 ∧
      ∀ spec surroundings before,
        TypedQuery.introspect .cockroachdb options spec surroundings before =
          TypedQuery.introspect .postgresql options spec surroundings
            before := by
  have find := findAlike_cockroachdb mentions scripted otherScripted options
  have runs := @runs_of_findAlike_of_eq (new .cockroachdb options)
    (new .postgresql options) _ _ _ here there rfl find ends otherEnds
  constructor
  · constructor
    case requests => exact runs.record.1
    case phase => exact congrArg (·.getD .init) runs.record.2
    case outcome =>
      apply runs.outcome.sameOutcome_of_eq fun _ _ same => same
      intro graph other built otherBuilt alike
      obtain ⟨course, rfl⟩ := exists_course_of_build built
      obtain ⟨otherCourse, rfl⟩ := exists_course_of_build otherBuilt
      exact sameButCounted_of_alike course otherCourse scripted otherScripted
        alike
  · intro spec surroundings before
    rw [Adapter.alikeForStatements_cockroachdb.introspect]

def yardKeys (parameters : List String) : List Row :=
  if parameters = ["public", "crate"] then
    [⟨[.text "crate_parcel_fkey", .text "parcel", .text "parcel", .text "id",
      .text "a", .text "c"]⟩]
  else []

/-- The catalog of a yard, in which the key of parcels is counted.  Every view
has the columns of parcels. -/
def yardReplies (query : CatalogQuery) (parameters : List String) :
    Except DriverError (List Row) :=
  match query.topic, parameters with
  | .schema, _ => .ok [⟨[.text "public"]⟩]
  | .viewSchema, _ => .ok [⟨[.text "pg_temp_3"]⟩]
  | .autoIncrement, ["public"] => .ok [⟨[.text "parcel"]⟩]
  | .tables, ["public", "r"] =>
    .ok [⟨[.text "parcel", .null]⟩, ⟨[.text "crate", .null]⟩]
  | .columns, ["public", "parcel"] | .columns, ["pg_temp_3", _] =>
    .ok [⟨[.int 1, .text "id", .text "bigint", .bool true, .null, .bool true,
      .null]⟩]
  | .columns, ["public", "crate"] =>
    .ok [⟨[.int 1, .text "parcel", .text "bigint", .bool true, .null,
      .bool false, .null]⟩]
  | .foreignKeys, _ => .ok (yardKeys parameters)
  | _, _ => .ok []

/-- A session with the catalog of a yard, where one number is drawn. -/
def yard (number : UInt32) : Surroundings where
  connection := .scripted yardReplies fun _ => .ok ()
  random := ⟨fun _ => number, 1⟩

private theorem mentionsColumns_yardReplies : MentionsColumns yardReplies := by
  intro parameters rows replied row membership name column named hasColumn
  obtain rfl : yardKeys parameters = rows := Except.ok.inj replied
  unfold yardKeys at membership
  split at membership
  next =>
    rw [List.mem_singleton] at membership
    subst membership
    cases named
    cases hasColumn
    decide
  next => cases membership

def parcelQuery : QuerySpec where
  statement := "select id from parcel where id = %%key int64%%"
  typeName := "Parcel"
  functionName := none
  onlyOne := true
  allowNulls := false
  fields := none
  trim := false
  strip := true
  interpolate := false
  typeComment := none
  functionComment := none

theorem sameButCounted_yard :
    ∃ graph other query,
      ((new .cockroachdb .standard).build (yard 3)).1.outcome = .ok graph ∧
      ((new .postgresql .standard).build (yard 5)).1.outcome = .ok other ∧
      graph.relations.values.map Relation.manualPrimaryKey = [true, false] ∧
      other.relations.values.map Relation.manualPrimaryKey = [true, true] ∧
      graph.foreignKeys.keys = ["crate_parcel_fkey_3"] ∧
      other.foreignKeys.keys = ["crate_parcel_fkey_5"] ∧
      ((new .cockroachdb .standard).build (yard 3)).1.SameButCounted
        (counted yardReplies)
        ((new .postgresql .standard).build (yard 5)).1 ∧
      (TypedQuery.introspect .cockroachdb .standard parcelQuery (yard 3)
        Journal.none).1 = .ok query ∧
      (TypedQuery.introspect .postgresql .standard parcelQuery (yard 3)
        Journal.none).1 = .ok query ∧
      query.statement = ["select id from parcel where id = $1"] ∧
      query.rowType.fields.map (fun field => (field.name, field.type.name)) =
        [("ID", "i64")] := by
  obtain ⟨graph, built, seen⟩ := exists_ok_of_view
    (show (((new .cockroachdb .standard).build
        (yard 3)).1.outcome.toOption.map fun graph =>
          (graph.relations.values.map Relation.manualPrimaryKey,
            graph.foreignKeys.keys)) =
      some ([true, false], ["crate_parcel_fkey_3"]) by decide +kernel)
  obtain ⟨other, otherBuilt, otherSeen⟩ := exists_ok_of_view
    (show (((new .postgresql .standard).build
        (yard 5)).1.outcome.toOption.map fun graph =>
          (graph.relations.values.map Relation.manualPrimaryKey,
            graph.foreignKeys.keys)) =
      some ([true, true], ["crate_parcel_fkey_5"]) by decide +kernel)
  obtain ⟨flags, keys⟩ := Prod.mk.inj seen
  obtain ⟨otherFlags, otherKeys⟩ := Prod.mk.inj otherSeen
  have same := @sameButCounted_of_build yardReplies (fun _ => .ok ()) (yard 3)
    (yard 5) .standard rfl rfl mentionsColumns_yardReplies
    (built ▸ .ok graph) (otherBuilt ▸ .ok other)
  obtain ⟨query, introspected, parts⟩ := exists_ok_of_view
    (show ((TypedQuery.introspect .cockroachdb .standard parcelQuery (yard 3)
        Journal.none).1.toOption.map fun query =>
          (query.statement,
            query.rowType.fields.map fun field =>
              (field.name, field.type.name))) =
      some (["select id from parcel where id = $1"], [("ID", "i64")]) by
        decide +kernel)
  obtain ⟨statement, fields⟩ := Prod.mk.inj parts
  have sameQuery := same.2 parcelQuery (yard 3) Journal.none
  exact ⟨graph, other, query, built, otherBuilt, flags, otherFlags, keys,
    otherKeys, same.1, introspected, sameQuery ▸ introspected, statement,
    fields⟩

end GraphBuilder

end SchemaAtlas
