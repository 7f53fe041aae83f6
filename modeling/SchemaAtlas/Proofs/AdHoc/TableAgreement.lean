import SchemaAtlas.Proofs.AdHoc.ViewLifetime
import SchemaAtlas.Proofs.Build.OptionalProbes
import SchemaAtlas.Proofs.Typing.JsonColumns

/-!
# Queries that agree with tables

The fields of a typed query are made of the columns of a throwaway view, those
of a relation of a graph by a build.  Columns of JSON get their type in
different places: a query renames their types before it resolves them, a build
while it does.  Still the same columns lead to the same names, types and primary
key either way.  A query without nulls takes every column for one that is never
null.
-/

namespace SchemaAtlas

open Catalog Recorded Inquiry

/-- Two relations have fields of the same names and types in the same order, and
the same positions belong to their primary keys. -/
structure Relation.SameShape (left right : Relation) : Prop where
  fields : left.fields.map (fun field => (field.name, field.type)) =
    right.fields.map fun field => (field.name, field.type)
  primaryKeyFields : left.primaryKeyFields = right.primaryKeyFields
  primaryKey? : left.primaryKey? = right.primaryKey?

/-- A column as a query takes it: never null, unless nulls are allowed. -/
def Catalog.ColumnRecord.takenAs (column : ColumnRecord) (allowNulls : Bool) :
    ColumnRecord :=
  if allowNulls then column else { column with notNull := true }

theorem keyPositions_eq (fields : List Field) :
    keyPositions fields =
      ((fields.map fun field =>
        field.column.inPrimaryKey).zipIdx.filter Prod.fst).map Prod.snd := by
  rw [keyPositions, List.zipIdx_map, List.filter_map, List.map_map]
  rfl

theorem Relation.SameShape.of_columns {left right : Relation}
    {columns : List ColumnRecord} {make other : ColumnRecord → Field}
    (made : left.fields = columns.map make)
    (alsoMade : right.fields = columns.map other)
    (sameName : ∀ column, (make column).name = (other column).name)
    (sameType : ∀ column, (make column).type = (other column).type)
    (sameKey : ∀ column, (make column).column.inPrimaryKey =
      (other column).column.inPrimaryKey) : left.SameShape right := by
  have primaryKeyFields : left.primaryKeyFields = right.primaryKeyFields := by
    -- The positions depend on nothing but what the columns say about the key.
    rw [left.primaryKeyFields_eq, right.primaryKeyFields_eq, keyPositions_eq,
      keyPositions_eq, made, alsoMade, List.map_map, List.map_map]
    simp only [Function.comp_def, sameKey]
  refine ⟨?_, primaryKeyFields, ?_⟩
  · rw [made, alsoMade, List.map_map, List.map_map]
    simp only [Function.comp_def, sameName, sameType]
  · rw [left.primaryKey?_eq, right.primaryKey?_eq, primaryKeyFields]

section Columns

variable {engine : Engine} {options : Options}
  (renames : engine.SpeaksPostgres → options.jsonColumnTypes = true)

include renames

/-- A query renames the type of a column to what a build resolves the column
by. -/
theorem Adapter.retypeQueryColumn_builtin (column : ColumnRecord) :
    (builtin engine).retypeQueryColumn column =
      { column with
        nativeType := Build.descriptorOf (builtin engine) options column } := by
  have speaks : engine.SpeaksPostgres →
      (builtin engine).retypeQueryColumn column =
      { column with
        nativeType := Build.descriptorOf (builtin engine) options column } := by
    intro speaks
    have retypes : (builtin engine).retypeQueryColumn = PostgreSql.retype := by
      rcases speaks with rfl | rfl <;> rfl
    have renamesJson : Build.renamesJson (builtin engine) options = true := by
      rw [Build.renamesJson, renames speaks, engine_builtin]
      rcases speaks with rfl | rfl <;> rfl
    have tested : (true && (column.nativeType == "json" ||
        column.nativeType == "jsonb")) = true ↔
        column.nativeType = "json" ∨ column.nativeType = "jsonb" := by
      simp
    -- Both test the column for JSON, one as a proposition and one as a flag.
    rw [retypes, PostgreSql.retype, Build.descriptorOf, renamesJson]
    by_cases json : column.nativeType = "json" ∨ column.nativeType = "jsonb"
    · rw [if_pos json, if_pos (tested.mpr json)]
    · rw [if_neg json, if_neg (mt tested.mp json)]
  cases engine with
  | postgresql => exact speaks (.inl rfl)
  | cockroachdb => exact speaks (.inr rfl)
  | sqlite | mysql | oracle =>
      show column = { column with
        nativeType := if options.jsonColumnTypes && false && _ then _ else _ }
      rw [Bool.and_false, Bool.false_and]
      rfl

theorem TypedQuery.columnField_retyped (schema : String) (allowNulls : Bool)
    (column : ColumnRecord) :
    columnField (Adapter.builtin engine) options schema allowNulls
        ((Adapter.builtin engine).retypeQueryColumn column) =
      { Build.fieldOf (Adapter.builtin engine) options schema
          (column.takenAs allowNulls) with
        column := (Adapter.builtin engine).retypeQueryColumn column } := by
  rw [Adapter.retypeQueryColumn_builtin renames]
  cases allowNulls <;> rfl

end Columns

/-- A statement can be introspected: it is read, the schema is found, the view
is created after that, and it reports columns. -/
structure TypedQuery.Reports (engine : Engine) (options : Options)
    (spec : QuerySpec) (surroundings : Surroundings) (before : Journal)
    (template : Template) (asked : List Request) (schema : String)
    (columns : List ColumnRecord) : Prop where
  unlisted : spec.fields = none
  read : Template.read spec.interpolate spec.statement = .ok template
  schemaFound : Build.schemaToLoad (Adapter.builtin engine) options
    surroundings.connection before.requests = (.ok schema, asked)
  created : surroundings.connection.execute (before.requests ++ asked)
    (View.createStatement engine
      (View.nameFrom surroundings.random before.draws)
      (inspected spec template)) = .ok ()
  reported : (View.columnsOf (Adapter.builtin engine)
    (View.nameFrom surroundings.random before.draws) surroundings.connection
    (before.requests ++ asked ++ [.execute (View.createStatement engine
      (View.nameFrom surroundings.random before.draws)
      (inspected spec template))])).1 = .ok columns

namespace TypedQuery

/-- A statement whose view reports columns is a typed query with a field for
each of them. -/
theorem introspect_of_reports {engine : Engine} {options : Options}
    {spec : QuerySpec} {surroundings : Surroundings} {before : Journal}
    {template : Template} {asked : List Request} {schema : String}
    {columns : List ColumnRecord}
    (reports : Reports engine options spec surroundings before template asked
      schema columns) :
    ∃ query,
      (introspect (.builtin engine) options spec surroundings before).1 =
        .ok query ∧
      query.rowType = rowRelation options.initialisms spec schema
        (columns.map fun column =>
          columnField (.builtin engine) options schema spec.allowNulls
            ((Adapter.builtin engine).retypeQueryColumn column)) := by
  have ran : Session.ask (Build.schemaToLoad (.builtin engine) options)
      surroundings before = (.ok schema, .ofRequests asked) := by
    rw [Session.ask_apply, reports.schemaFound]
  -- To find the schema draws no number.
  have named : View.nameFrom surroundings.random
      (Record.append before (Journal.ofRequests asked)).draws =
        View.nameFrom surroundings.random before.draws := rfl
  have viewed : (View.during (.builtin engine) (inspected spec template)
      (View.columnsOf (.builtin engine)) surroundings
      (Record.append before (.ofRequests asked))).1 = .ok columns := by
    rw [View.during_of_created named (View.createView_builtin engine _ _)
      reports.created (Prod.ext reports.reported rfl)]
  have made : (fields (.builtin engine) options spec schema
      (inspected spec template) surroundings
      (Record.append before (.ofRequests asked))).1 =
      .ok (columns.map fun column =>
        columnField (.builtin engine) options schema spec.allowNulls
          ((Adapter.builtin engine).retypeQueryColumn column)) := by
    rw [fields, reports.unlisted]
    dsimp only
    rw [Adapter.queryColumns, map_apply, map_apply, viewed]
    exact congrArg Except.ok (List.map_map ..)
  refine ⟨?query, ?run, ?shape⟩
  case run =>
    rw [introspect, reports.read, ofExcept_ok, pure_bind]
    dsimp only
    rw [bind_of_ok ran, map_apply]
    exact congrArg (Except.map _) made
  case shape => rfl

end TypedQuery

/-- The fields of a relation of the graph are those of the columns that were
found for its name, unless fields are left out. -/
theorem Build.Course.exists_columns_of_held {adapter : Adapter}
    {options : Options} {surroundings : Surroundings}
    (course : Course adapter options surroundings)
    (noneIgnored : options.ignoredFields = []) {name : String}
    {relation : Relation} (held : course.graph.relation? name = some relation) :
    ∃ columns,
      (adapter.columns course.graph.schema name).Returns surroundings.connection
        columns ∧
      relation.fields =
        columns.map (fieldOf adapter options course.graph.schema) := by
  have kept : ∀ column : ColumnRecord,
      (!options.ignoresField column.name) = true := by
    intro column
    rw [Options.ignoresField, noneIgnored]
    rfl
  have each : course.relations.Every fun name relation => ∃ columns,
      (adapter.columns course.schema name).Returns surroundings.connection
        columns ∧
      relation.fields =
        columns.map (fieldOf adapter options course.schema) := by
    refine course.every_merged fun kind table columns found =>
      ⟨columns, found, ?_⟩
    rw [relationOf_eq, List.filter_eq_self.mpr fun column _ => kept column]
  obtain ⟨loaded, _, _, isLoaded, rfl⟩ := course.exists_loaded_of_held held
  obtain ⟨columns, found, fields⟩ := each isLoaded
  exact ⟨columns, found, fields⟩

namespace GraphBuilder

/-- A typed query has the shape of the relation of a graph whose columns are
those of its view, as the query takes them. -/
theorem sameShape_of_build {engine : Engine} {options : Options}
    (noneIgnored : options.ignoredFields = [])
    (renames : engine.SpeaksPostgres → options.jsonColumnTypes = true)
    {phase : Phase} {there : Surroundings} {graph : Graph}
    (built : ((mk (Adapter.builtin engine) options phase).build
      there).1.outcome = .ok graph)
    {name : String} {relation : Relation}
    (held : graph.relation? name = some relation)
    {spec : QuerySpec} {here : Surroundings} {before : Journal}
    {template : Template} {asked : List Request} {columns : List ColumnRecord}
    (reports : TypedQuery.Reports engine options spec here before template asked
      graph.schema columns)
    (alike : ∀ others, ((Adapter.builtin engine).columns graph.schema name
      there.connection others).1 =
        .ok (columns.map fun column => column.takenAs spec.allowNulls)) :
    ∃ query,
      (TypedQuery.introspect (Adapter.builtin engine) options spec here
        before).1 = .ok query ∧
      query.rowType.SameShape relation := by
  obtain ⟨query, introspected, shape⟩ :=
    TypedQuery.introspect_of_reports reports
  obtain ⟨course, rfl⟩ := Build.exists_course_of_build built
  obtain ⟨found, ⟨others, returned⟩, fields⟩ :=
    course.exists_columns_of_held noneIgnored held
  obtain rfl := Except.ok.inj (returned.symm.trans (alike others))
  rw [List.map_map] at fields
  have rowFields := congrArg Relation.fields shape
  rw [TypedQuery.fields_rowRelation] at rowFields
  refine ⟨query, introspected, .of_columns rowFields fields ?_ ?_ ?_⟩
  · intro column
    rw [TypedQuery.columnField_retyped renames]
    rfl
  · intro column
    rw [TypedQuery.columnField_retyped renames]
    rfl
  · intro column
    show ((Adapter.builtin engine).retypeQueryColumn column).inPrimaryKey =
      (column.takenAs spec.allowNulls).inPrimaryKey
    rw [Adapter.retypeQueryColumn_builtin renames, ColumnRecord.takenAs]
    split <;> rfl

/-- The columns of the entries of a register, of which one is JSON. -/
def registerColumns : List ColumnRecord :=
  [⟨1, "id", "bigint", true, none, true, none⟩,
    ⟨2, "payload", "jsonb", false, none, false, none⟩,
    ⟨3, "seen", "date", false, none, false, none⟩]

/-- The catalog of a register.  Every relation in it is reported to have the
same columns, and only the key is never null, unless nothing is. -/
def registerReplies (allowNulls : Bool) (query : CatalogQuery)
    (parameters : List String) : Except DriverError (List Row) :=
  match query.topic, parameters with
  | .schema, _ | .viewSchema, _ => .ok [⟨[.text "public"]⟩]
  | .tables, ["public", "v"] => .ok [⟨[.text "entry", .null]⟩]
  | .columns, _ =>
    .ok [
      ⟨[.int 1, .text "id", .text "bigint", .bool true, .null, .bool true,
        .null]⟩,
      ⟨[.int 2, .text "payload", .text "jsonb", .bool !allowNulls, .null,
        .bool false, .null]⟩,
      ⟨[.int 3, .text "seen", .text "date", .bool !allowNulls, .null,
        .bool false, .null]⟩]
  | _, _ => .ok []

def register (allowNulls : Bool) : Surroundings where
  connection := .scripted (registerReplies allowNulls) fun _ => .ok ()
  random := ⟨fun _ => 0, 1⟩

def registerQuery (allowNulls : Bool) : QuerySpec :=
  { entryQuery with statement := "select * from entry", allowNulls }

/-- The view `entry` of a register has fields of some names and types, and a
query over another register agrees with it. -/
def AgreesOverRegister (allowNulls : Bool) (fields : List (String × String)) :
    Prop :=
  ∃ graph relation query,
    ((new (.builtin .postgresql) byColumn).build
      (register allowNulls)).1.outcome = .ok graph ∧
    graph.relation? "entry" = some relation ∧
    (relation.fields.map fun field => (field.name, field.type.name)) = fields ∧
    (TypedQuery.introspect (.builtin .postgresql) byColumn
      (registerQuery allowNulls) (register true) Journal.none).1 = .ok query ∧
    query.rowType.SameShape relation

/-- Over a register with nulls, a query that allows them agrees with the view of
that register, and one that does not with the view of a register without
nulls. -/
theorem sameShape_register :
    AgreesOverRegister true [("ID", "i64"), ("Payload", "Option<Payload>"),
      ("Seen", "Option<chrono::NaiveDate>")] ∧
    AgreesOverRegister false [("ID", "i64"), ("Payload", "Payload"),
      ("Seen", "chrono::NaiveDate")] := by
  have agrees : ∀ allowNulls fields,
      (((new (.builtin .postgresql) byColumn).build
          (register allowNulls)).1.outcome.toOption.map fun graph =>
        (graph.schema, (graph.relation? "entry").map fun relation =>
          relation.fields.map fun field => (field.name, field.type.name))) =
        some ("public", some fields) →
      AgreesOverRegister allowNulls fields := by
    intro allowNulls fields seen
    obtain ⟨graph, built, seen⟩ := exists_ok_of_view seen
    obtain ⟨inPublic, seen⟩ := Prod.mk.inj seen
    obtain ⟨relation, held, typed⟩ := Option.map_eq_some_iff.mp seen
    obtain ⟨template, read, _⟩ := exists_ok_of_view
      (show ((Template.read false "select * from entry").toOption.map fun _ =>
        ()) = some () by decide +kernel)
    have reports : TypedQuery.Reports .postgresql byColumn
        (registerQuery allowNulls) (register true) Journal.none template
        [.query PostgreSql.Queries.schema []] graph.schema registerColumns := by
      rw [inPublic]
      exact ⟨rfl, read, rfl, rfl, rfl⟩
    have alike : ∀ others, ((Adapter.builtin .postgresql).columns graph.schema
        "entry" (register allowNulls).connection others).1 =
          .ok (registerColumns.map fun column =>
            column.takenAs (registerQuery allowNulls).allowNulls) := by
      intro others
      cases allowNulls <;> rfl
    obtain ⟨query, introspected, same⟩ :=
      sameShape_of_build rfl (fun _ => rfl) built held reports alike
    exact ⟨graph, relation, query, built, held, typed, introspected, same⟩
  exact ⟨agrees true _ (by decide +kernel), agrees false _ (by decide +kernel)⟩

end GraphBuilder

end SchemaAtlas
