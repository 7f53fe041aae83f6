import SchemaAtlas.Proofs.Build.OptionalProbes
import SchemaAtlas.Proofs.Build.Resolution
import SchemaAtlas.Proofs.Exchange.Yielding

/-!
# Requests for parts

What an engine is asked for the parts of one object is one query each time,
which carries the native name of the object.  A listing never asks for parts,
and neither does a probe.
-/

namespace SchemaAtlas

open Catalog

namespace Engine

/-- The query for the labels of an enumeration, where an engine has any. -/
def labelRequest (engine : Engine) (schema enumeration : String) : Request :=
  match engine with
  | .mysql => .query MySql.Queries.enumLabels [schema, enumeration]
  | _ => .query PostgreSql.Queries.enumLabels [schema, enumeration]

/-- The query for the parameters of a routine, where an engine has any. -/
def parameterRequest (engine : Engine) (schema routine : String) : Request :=
  match engine with
  | .mysql => .query MySql.Queries.routineParameters [schema, routine]
  | _ => .query PostgreSql.Queries.routineParameters [schema, routine]

/-- The query for the relations of a kind, for which the engine's word is
given. -/
def tableRequest (engine : Engine) (schema word : String) : Request :=
  match engine with
  | .sqlite => .query Sqlite.Queries.tables [word]
  | .postgresql | .cockroachdb =>
      .query PostgreSql.Queries.tables [schema, word]
  | .mysql => .query MySql.Queries.tables [schema, word]
  | .oracle => .query Oracle.Queries.tables [schema, word]

def columnRequest (engine : Engine) (schema relation : String) : Request :=
  match engine with
  | .sqlite => .query Sqlite.Queries.columns [relation]
  | .postgresql | .cockroachdb =>
    .query PostgreSql.Queries.columns [schema, relation]
  | .mysql => .query MySql.Queries.columns [schema, relation]
  | .oracle => .query Oracle.Queries.columns [schema, relation]

def indexRequest (engine : Engine) (schema relation : String) : Request :=
  match engine with
  | .sqlite => .query Sqlite.Queries.indexes [relation]
  | .postgresql | .cockroachdb =>
    .query PostgreSql.Queries.indexes [schema, relation]
  | .mysql => .query MySql.Queries.indexes [schema, relation]
  | .oracle => .query Oracle.Queries.indexes [schema, relation]

/-- The query for the columns of an index; only MySQL tells indexes of different
relations apart. -/
def indexColumnRequest (engine : Engine) (schema relation index : String) :
    Request :=
  match engine with
  | .sqlite => .query Sqlite.Queries.indexColumns [index]
  | .postgresql | .cockroachdb =>
    .query PostgreSql.Queries.indexColumns [schema, index]
  | .mysql => .query MySql.Queries.indexColumns [schema, relation, index]
  | .oracle => .query Oracle.Queries.indexColumns [schema, index]

@[inherit_doc indexColumnRequest]
def indexOrderRequest (engine : Engine) (schema relation index : String) :
    Request :=
  match engine with
  | .sqlite => .query Sqlite.Queries.indexOrder [index]
  | .postgresql | .cockroachdb =>
    .query PostgreSql.Queries.indexOrder [schema, index]
  | .mysql => .query MySql.Queries.indexOrder [schema, relation, index]
  | .oracle => .query Oracle.Queries.indexOrder [schema, index]

end Engine

namespace Adapter

open Inquiry

section Found

variable (engine : Engine) (schema : String) (connection : Connection)

theorem finding_tables_eq_ok_iff (word : String) {tables : List TableRecord} :
    ((builtin engine).tables schema word).finding connection = .ok tables ↔
      ∃ rows, connection.Answers (engine.tableRequest schema word) rows ∧
        List.Forall₂ (engine.ReportsTable word) rows tables := by
  have reads : ∀ row table, engine.tableOfRow word row = .ok table ↔
      engine.ReportsTable word row table :=
    fun _ _ => engine.tableOfRow_eq_ok_iff
  cases engine with
  | sqlite | postgresql | cockroachdb | mysql | oracle =>
      exact finding_listOf_eq_ok_iff (reads _ _) _ _ _

theorem finding_columns_eq_ok_iff (relation : String)
    {columns : List ColumnRecord} :
    ((builtin engine).columns schema relation).finding connection =
        .ok columns ↔
      ∃ rows, connection.Answers (engine.columnRequest schema relation) rows ∧
        List.Forall₂ engine.ReportsColumn rows columns := by
  have reads : ∀ row column, engine.columnOfRow row = .ok column ↔
      engine.ReportsColumn row column :=
    fun _ _ => engine.columnOfRow_eq_ok_iff
  cases engine with
  | sqlite | postgresql | cockroachdb | mysql | oracle =>
      exact finding_listOf_eq_ok_iff (reads _ _) _ _ _

theorem finding_foreignKeys_eq_ok_iff (relation : String)
    {foreignKeys : List ForeignKeyRecord} :
    ((builtin engine).foreignKeys schema relation).finding connection =
        .ok foreignKeys ↔
      ∃ rows, connection.Answers (engine.foreignKeyRequest schema relation)
        rows ∧ List.Forall₂ engine.ReportsForeignKey rows foreignKeys := by
  have reads : ∀ row foreignKey, engine.foreignKeyOfRow row = .ok foreignKey ↔
      engine.ReportsForeignKey row foreignKey :=
    fun _ _ => engine.foreignKeyOfRow_eq_ok_iff
  cases engine with
  | sqlite | postgresql | cockroachdb | mysql | oracle =>
      exact finding_listOf_eq_ok_iff (reads _ _) _ _ _

theorem finding_indexes_eq_ok_iff (relation : String)
    {indexes : List IndexRecord} :
    ((builtin engine).indexes schema relation).finding connection =
        .ok indexes ↔
      ∃ rows, connection.Answers (engine.indexRequest schema relation) rows ∧
        List.Forall₂ engine.ReportsIndex rows indexes := by
  have reads : ∀ row index, engine.indexOfRow row = .ok index ↔
      engine.ReportsIndex row index :=
    fun _ _ => engine.indexOfRow_eq_ok_iff
  cases engine with
  | sqlite | postgresql | cockroachdb | mysql | oracle =>
      exact finding_listOf_eq_ok_iff (reads _ _) _ _ _

end Found

variable (engine : Engine) (schema : String) (connection : Connection)
  (before : List Request)

theorem asked_enumLabels {engine : Engine}
    (lists : (builtin engine).capabilities.enums = true)
    (enumeration : String) :
    ((builtin engine).enumLabels schema enumeration connection before).2 =
      [engine.labelRequest schema enumeration] := by
  cases engine with
  | sqlite | oracle => cases lists
  | postgresql | cockroachdb => exact asked_listOf _ _ _ _ _
  | mysql =>
      exact (asked_bind_of_silent (fun _ _ => rfl) before).trans
        (asked_value? _ _ _ _)

theorem asked_routineParameters {engine : Engine}
    (lists : (builtin engine).capabilities.routines = true)
    (routine : String) :
    ((builtin engine).routineParameters schema routine connection before).2 =
      [engine.parameterRequest schema routine] := by
  cases engine with
  | sqlite | oracle => cases lists
  | postgresql | cockroachdb | mysql => exact asked_listOf _ _ _ _ _

theorem asked_columns (relation : String) :
    ((builtin engine).columns schema relation connection before).2 =
      [engine.columnRequest schema relation] := by
  cases engine with
  | sqlite | postgresql | cockroachdb | mysql | oracle =>
      exact asked_listOf _ _ _ _ _

theorem asked_indexes (relation : String) :
    ((builtin engine).indexes schema relation connection before).2 =
      [engine.indexRequest schema relation] := by
  cases engine with
  | sqlite | postgresql | cockroachdb | mysql | oracle =>
      exact asked_listOf _ _ _ _ _

theorem asked_indexColumns (relation index : String) :
    ((builtin engine).indexColumns schema relation index connection before).2 =
      [engine.indexColumnRequest schema relation index] := by
  cases engine with
  | sqlite | postgresql | cockroachdb | mysql | oracle =>
      exact asked_listOf _ _ _ _ _

theorem asked_requireOrder (relation index : String) (order? : Option String) :
    (requireOrder relation index order? connection before).2 = [] := by
  cases order? <;> rfl

theorem asked_indexOrder (relation index : String) :
    ((builtin engine).indexOrder schema relation index connection before).2 =
      [engine.indexOrderRequest schema relation index] := by
  cases engine with
  | sqlite | postgresql | cockroachdb | mysql | oracle =>
      refine (asked_bind_of_silent ?_ before).trans (asked_value? _ _ _ _)
      intro order? before
      exact asked_requireOrder _ _ _ _ _

end Adapter

/-- Whether a request is a query about one of some topics. -/
def Request.isAbout (topics : List Topic) : Request → Bool
  | .query inquired _ => topics.contains inquired.topic
  | .execute _ => false

/-- The topics of the queries for the parts of one object. -/
def Topic.ofParts : List Topic :=
  [.enumLabels, .routineParameters, .columns, .foreignKeys, .indexes,
    .indexColumns, .indexOrder]

private theorem Topic.probe?_of_mem_ofParts : ∀ topic ∈ Topic.ofParts,
    topic.probe? = none := by
  decide

namespace Engine

open Request

variable (engine : Engine) (options : Options) (connection : Connection)
  (schema : String) {topics : List Topic}

@[simp] theorem isAbout_labelRequest (enumeration : String) :
    (engine.labelRequest schema enumeration).isAbout topics =
      topics.contains .enumLabels := by
  cases engine <;> rfl

@[simp] theorem isAbout_parameterRequest (routine : String) :
    (engine.parameterRequest schema routine).isAbout topics =
      topics.contains .routineParameters := by
  cases engine <;> rfl

@[simp] theorem isAbout_columnRequest (relation : String) :
    (engine.columnRequest schema relation).isAbout topics =
      topics.contains .columns := by
  cases engine <;> rfl

@[simp] theorem isAbout_foreignKeyRequest (relation : String) :
    (engine.foreignKeyRequest schema relation).isAbout topics =
      topics.contains .foreignKeys := by
  cases engine <;> rfl

@[simp] theorem isAbout_indexRequest (relation : String) :
    (engine.indexRequest schema relation).isAbout topics =
      topics.contains .indexes := by
  cases engine <;> rfl

@[simp] theorem isAbout_indexColumnRequest (relation index : String) :
    (engine.indexColumnRequest schema relation index).isAbout topics =
      topics.contains .indexColumns := by
  cases engine <;> rfl

@[simp] theorem isAbout_indexOrderRequest (relation index : String) :
    (engine.indexOrderRequest schema relation index).isAbout topics =
      topics.contains .indexOrder := by
  cases engine <;> rfl

theorem filter_askedFirst {α : Type} {inquiry : Inquiry α} {engine : Engine}
    (reads : inquiry.Reads engine (· ∉ Topic.ofParts))
    (ofParts : topics ⊆ Topic.ofParts) :
    (inquiry.askedFirst connection).filter (isAbout topics) = [] := by
  rw [List.filter_eq_nil_iff]
  intro request membership about
  obtain ⟨query, parameters, rfl, listing⟩ :=
    reads.about_of_mem_askedFirst connection request membership
  exact listing (ofParts (List.contains_iff_mem.mp about))

theorem filter_probeRequests (kind : Probe)
    (ofParts : topics ⊆ Topic.ofParts) :
    (engine.probeRequests kind schema).filter (isAbout topics) = [] := by
  rw [List.filter_eq_nil_iff]
  intro request membership about
  obtain ⟨⟨query, parameters⟩, probed, rfl⟩ := List.mem_map.mp membership
  have isProbe := topic_of_probe? (Option.mem_toList.mp probed)
  rw [Topic.probe?_of_mem_ofParts _
    (ofParts (List.contains_iff_mem.mp about))] at isProbe
  cases isProbe

end Engine

end SchemaAtlas
