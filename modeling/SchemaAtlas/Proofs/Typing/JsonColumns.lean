import SchemaAtlas.AdHoc.Query
import SchemaAtlas.Proofs.Build.CrossReference
import SchemaAtlas.Proofs.Typing.UserDefined

/-!
# Columns of JSON

Under an option, a column of JSON is resolved by its own name in the place of
its type, so that it gets a type of the user which is named after it.  The name
goes through the whole vocabulary of the engine, though.  A column that is
called like a type, such as `date`, gets that type.  The columns of a typed
query are resolved in the same way.
-/

namespace SchemaAtlas

open Catalog

def Catalog.ColumnRecord.HoldsJson (column : ColumnRecord) : Prop :=
  column.nativeType = "json" ∨ column.nativeType = "jsonb"

instance (column : ColumnRecord) : Decidable column.HoldsJson :=
  inferInstanceAs (Decidable (_ ∨ _))

/-- A type is that of a column which is resolved by its name: a type of the user
that is named after the column, unless the vocabulary has a type of the name. -/
structure TargetType.IsResolvedByName (type : TargetType)
    (context : TypeContext) (column : ColumnRecord) : Prop where
  unknown :
    (Vocabulary.postgresqlTable context).find? (Text.lowercase column.name) =
        none →
      type = (Spelling.orMissing (.defaulted (context.names.camel column.name))
        column.nullable).withExtent Extent.none
  known : ∀ mapping,
    (Vocabulary.postgresqlTable context).find? (Text.lowercase column.name) =
        some mapping →
      type = (mapping.present context.presentation
        column.nullable).withExtent Extent.none

def Engine.SpeaksPostgres (engine : Engine) : Prop :=
  engine = .postgresql ∨ engine = .cockroachdb

instance (engine : Engine) : Decidable engine.SpeaksPostgres :=
  inferInstanceAs (Decidable (_ ∨ _))

theorem Adapter.isResolvedByName_resolve {engine : Engine}
    (speaks : engine.SpeaksPostgres) {context : TypeContext}
    {column : ColumnRecord} (plain : Identifier.IsPlain column.name.toList) :
    ((builtin engine).resolve context column.name
      column.nullable).IsResolvedByName context column := by
  have sameVocabulary : Vocabulary.builtin engine = Vocabulary.postgresql := by
    rcases speaks with rfl | rfl <;> rfl
  have resolved : Vocabulary.postgresql.resolve context column.name
      column.nullable = _ := Vocabulary.resolveChars_of_plain plain
  have lookUp : Vocabulary.postgresql context Extent.none
      (String.ofList (Text.lower column.name.toList)) =
      (Vocabulary.postgresqlTable context).find?
        (Text.lowercase column.name) := rfl
  rw [lookUp] at resolved
  rw [Vocabulary.resolve_builtin, sameVocabulary]
  constructor
  case unknown =>
    intro absent
    rw [resolved, absent]
    rfl
  case known =>
    intro mapping found
    rw [resolved, found]

namespace Build

theorem descriptorOf_builtin (engine : Engine) (options : Options)
    (column : ColumnRecord) :
    descriptorOf (Adapter.builtin engine) options column =
      if options.jsonColumnTypes ∧ engine.SpeaksPostgres ∧ column.HoldsJson then
        column.name
      else column.nativeType := by
  apply if_congr _ rfl rfl
  simp [renamesJson, Adapter.engine_builtin, Engine.SpeaksPostgres,
    ColumnRecord.HoldsJson, and_assoc]

theorem descriptorOf_eq_name {engine : Engine} (speaks : engine.SpeaksPostgres)
    {options : Options} (renames : options.jsonColumnTypes = true)
    {column : ColumnRecord} (json : column.HoldsJson) :
    descriptorOf (Adapter.builtin engine) options column = column.name := by
  rw [descriptorOf_builtin, if_pos ⟨renames, speaks, json⟩]

end Build

namespace View

open Recorded

theorem returns_of_during {α : Type} {adapter : Adapter} {statement : String}
    {use : String → Inquiry α} {surroundings : Surroundings} {value : α}
    (returns : (during adapter statement use).Returns surroundings value) :
    ∃ view, (use view).Returns surroundings.connection value := by
  obtain ⟨view, _, returns⟩ := returns_of_bind returns
  obtain ⟨created, _, returns⟩ := returns_of_bind returns
  cases created with
  | error cause =>
      obtain ⟨before, run⟩ := returns
      cases run
  | ok =>
      obtain ⟨outcome, attempted, returns⟩ := returns_of_bind returns
      obtain ⟨_, _, returns⟩ := returns_of_bind returns
      obtain ⟨before, run⟩ := exists_run_of_returns_attempt attempted
      rw [eq_of_returns_ofExcept returns] at run
      exact ⟨view, before.requests, run⟩

end View

namespace TypedQuery

open Recorded

/-- The fields of a query that lists none stand for the columns of a view. -/
theorem fields_of_returns_introspect {adapter : Adapter} {options : Options}
    {spec : QuerySpec} {surroundings : Surroundings} {query : TypedQuery}
    (returns : (introspect adapter options spec).Returns surroundings query)
    (unlisted : spec.fields = none) :
    ∃ view columns,
      (View.columnsOf adapter view).Returns surroundings.connection columns ∧
      query.rowType.fields = columns.map fun column =>
        columnField adapter options query.rowType.schema spec.allowNulls
          (adapter.retypeQueryColumn column) := by
  obtain ⟨template, _, returns⟩ := returns_of_bind returns
  obtain ⟨schema, _, returns⟩ := returns_of_bind returns
  obtain ⟨found, asked, returns⟩ := returns_of_bind returns
  rw [eq_of_returns_pure returns]
  rw [fields, unlisted] at asked
  obtain ⟨retyped, asked, returns⟩ := returns_of_bind asked
  obtain ⟨columns, asked, renamed⟩ := returns_of_bind asked
  obtain ⟨view, asked⟩ := View.returns_of_during asked
  refine ⟨view, columns, asked, ?_⟩
  rw [fields_rowRelation, schema_rowRelation, eq_of_returns_pure returns,
    eq_of_returns_pure renamed, List.map_map]
  rfl

theorem isResolvedByName_columnField {engine : Engine}
    (speaks : engine.SpeaksPostgres) (options : Options) (schema : String)
    {column : ColumnRecord} (json : column.HoldsJson)
    (plain : Identifier.IsPlain column.name.toList) :
    (columnField (Adapter.builtin engine) options schema true
      (PostgreSql.retype column)).type.IsResolvedByName
        (options.typeContext schema) column := by
  have retyped : PostgreSql.retype column =
      { column with nativeType := column.name } := if_pos json
  rw [columnField, retyped]
  exact Adapter.isResolvedByName_resolve speaks plain

end TypedQuery

namespace GraphBuilder

open Recorded

/-- In the graph of every successful build under the option, and in every typed
query whose fields are read from the catalog and may be null, a column of JSON
has the type that is named after it, unless the vocabulary knows its name. -/
theorem isResolvedByName_of_holdsJson {engine : Engine}
    (speaks : engine.SpeaksPostgres) (options : Options)
    (surroundings : Surroundings) :
    (∀ phase graph name relation field, options.jsonColumnTypes = true →
      ((mk (Adapter.builtin engine) options phase).build
        surroundings).1.outcome = .ok graph →
      graph.relation? name = some relation → field ∈ relation.fields →
      field.column.HoldsJson → Identifier.IsPlain field.column.name.toList →
      field.type.IsResolvedByName (options.typeContext graph.schema)
        field.column) ∧
    ∀ spec before query,
      (TypedQuery.introspect (Adapter.builtin engine) options spec surroundings
        before).1 = .ok query →
      spec.fields = none → spec.allowNulls = true →
      ∃ view columns,
        (View.columnsOf (Adapter.builtin engine) view).Returns
          surroundings.connection columns ∧
        List.Forall₂ (fun column field =>
          field.column = PostgreSql.retype column ∧
            (column.HoldsJson → Identifier.IsPlain column.name.toList →
              field.type.IsResolvedByName
                (options.typeContext query.rowType.schema) column))
          columns query.rowType.fields := by
  constructor
  · intro phase graph name relation field renames built held membership json
      plain
    obtain ⟨course, rfl⟩ := Build.exists_course_of_build built
    have isField := course.eq_fieldOf_of_mem_fields held membership
    have type : field.type = (Adapter.builtin engine).resolve
        (options.typeContext course.graph.schema) field.column.name
        field.column.nullable := by
      rw [← Build.descriptorOf_eq_name speaks renames json]
      exact congrArg Field.type isField
    rw [type]
    exact Adapter.isResolvedByName_resolve speaks plain
  · intro spec before query introspected unlisted allowsNulls
    obtain ⟨view, columns, reported, shape⟩ :=
      TypedQuery.fields_of_returns_introspect ⟨before, introspected⟩ unlisted
    have retypes : (Adapter.builtin engine).retypeQueryColumn =
        PostgreSql.retype := by
      rcases speaks with rfl | rfl <;> rfl
    refine ⟨view, columns, reported, ?_⟩
    rw [shape, allowsNulls, retypes, List.forall₂_map_right_iff]
    apply List.forall₂_same.mpr
    intro column _
    exact ⟨rfl, TypedQuery.isResolvedByName_columnField speaks options _⟩

/-- The catalog of a ledger, whose entries have two columns of JSON: `payload`
and `date`.  Every view is reported to have the same columns. -/
def ledgerReplies (query : CatalogQuery) (_ : List String) :
    Except DriverError (List Row) :=
  match query.topic with
  | .tables => .ok [⟨[.text "entry", .null]⟩]
  | .columns =>
    .ok [
      ⟨[.int 1, .text "payload", .text "jsonb", .bool true, .null, .bool false,
        .null]⟩,
      ⟨[.int 2, .text "date", .text "jsonb", .bool true, .null, .bool false,
        .null]⟩]
  | .schema | .viewSchema => .ok [⟨[.text "public"]⟩]
  | _ => .ok []

def ledger : Surroundings where
  connection := .scripted ledgerReplies fun _ => .ok ()
  random := ⟨fun _ => 0, 1⟩

def byColumn : Options :=
  { Options.standard with jsonColumnTypes := true }

def entryQuery : QuerySpec where
  statement := "select payload, date from entry"
  typeName := "Entry"
  functionName := none
  onlyOne := false
  allowNulls := true
  fields := none
  trim := false
  strip := false
  interpolate := false
  typeComment := none
  functionComment := none

def payloadColumn : ColumnRecord :=
  ⟨1, "payload", "jsonb", true, none, false, none⟩

def dateColumn : ColumnRecord :=
  ⟨2, "date", "jsonb", true, none, false, none⟩

private theorem isPlain_payload :
    Identifier.IsPlain payloadColumn.name.toList :=
  ⟨⟨'p', _, rfl, rfl⟩, by simp [payloadColumn]⟩

private theorem isPlain_date : Identifier.IsPlain dateColumn.name.toList :=
  ⟨⟨'d', _, rfl, rfl⟩, by simp [dateColumn]⟩

/-- The column `payload` of the ledger is resolved by its name, in a build and
in a query. -/
theorem isResolvedByName_payload_ledger :
    (∃ graph relation field,
      ((new (.builtin .postgresql) byColumn).build ledger).1.outcome =
        .ok graph ∧
      graph.relation? "entry" = some relation ∧ field ∈ relation.fields ∧
      field.column = payloadColumn ∧
      field.type = ⟨"Payload", "Payload::default()", none, none⟩) ∧
    ∃ query,
      (TypedQuery.introspect (.builtin .postgresql) byColumn entryQuery ledger
        Journal.none).1 = .ok query ∧
      query.rowType.fields.map (fun field => field.type.name) =
        ["Payload", "chrono::NaiveDate"] := by
  obtain ⟨ofBuild, ofQuery⟩ := isResolvedByName_of_holdsJson
    (show Engine.SpeaksPostgres .postgresql from .inl rfl) byColumn ledger
  constructor
  · obtain ⟨graph, relation, field, built, inPublic, held, membership,
        column⟩ :=
      Build.exists_field_of_view
        (show (((new (.builtin .postgresql) byColumn).build
            ledger).1.outcome.toOption.map fun graph =>
          (graph.schema, (graph.relation? "entry").map fun relation =>
            relation.fields.map Field.column)) =
          some ("public", some [payloadColumn, dateColumn]) by decide +kernel)
        List.mem_cons_self
    refine ⟨graph, relation, field, built, held, membership, column, ?_⟩
    have isResolvedByName := ofBuild _ graph _ relation field rfl built held
      membership (column ▸ .inr rfl) (column ▸ isPlain_payload)
    rw [inPublic, column] at isResolvedByName
    rw [isResolvedByName.unknown (by decide +kernel)]
    decide +kernel
  · obtain ⟨query, introspected, inPublic⟩ := exists_ok_of_view
      (show ((TypedQuery.introspect (.builtin .postgresql) byColumn entryQuery
          ledger Journal.none).1.toOption.map fun query =>
        query.rowType.schema) = some "public" by decide +kernel)
    refine ⟨query, introspected, ?_⟩
    obtain ⟨view, columns, ⟨before, reported⟩, each⟩ :=
      ofQuery entryQuery Journal.none query introspected rfl rfl
    rw [inPublic] at each
    -- Whatever the view is called, its columns are those of the ledger.
    cases reported
    generalize query.rowType.fields = fields at each
    cases each with
    | cons payload others =>
        cases others with
        | cons date others =>
            cases others
            have payloadType :=
              (payload.2 (.inr rfl) isPlain_payload).unknown (by decide +kernel)
            have dateType := (date.2 (.inr rfl) isPlain_date).known _ rfl
            rw [List.map_cons, List.map_cons, payloadType, dateType]
            decide +kernel

/-- The column `date` of the ledger gets the type of dates and not one that is
named after it. -/
theorem misses_date_ledger :
    ∃ graph relation field,
      ((new (.builtin .postgresql) byColumn).build ledger).1.outcome =
        .ok graph ∧
      graph.relation? "entry" = some relation ∧ field ∈ relation.fields ∧
      field.column = dateColumn ∧ field.type.name = "chrono::NaiveDate" ∧
      byColumn.initialisms.camel field.column.name = "Date" := by
  obtain ⟨graph, relation, field, built, _, held, membership, seen⟩ :=
    Build.exists_field_of_view
      (show (((new (.builtin .postgresql) byColumn).build
          ledger).1.outcome.toOption.map fun graph =>
        (graph.schema, (graph.relation? "entry").map fun relation =>
          relation.fields.map fun field => (field.column, field.type.name))) =
        some ("public", some [(payloadColumn, "Payload"),
          (dateColumn, "chrono::NaiveDate")]) by decide +kernel)
      (List.mem_cons_of_mem _ List.mem_cons_self)
  obtain ⟨column, type⟩ := Prod.mk.inj seen
  refine ⟨graph, relation, field, built, held, membership, column, type, ?_⟩
  rw [column]
  decide +kernel

end GraphBuilder

end SchemaAtlas
