import SchemaAtlas.Proofs.Adapter.Records
import SchemaAtlas.Proofs.Exchange.Asking

/-!
# Inquiries of the adapters

Every inquiry of the library's own adapters is composed of queries about the
topics that it is named for, and reads the answers as its engine's.  The
statements about a whole build follow from these by composition.
-/

namespace SchemaAtlas

open Catalog

namespace Adapter

open Inquiry

variable {topics : Topic → Prop} (engine : Engine)

theorem reads_schemaName (about : topics .schema) :
    (builtin engine).schemaName.Reads engine topics := by
  cases engine with
  | sqlite => exact .pure _
  | postgresql | cockroachdb | mysql | oracle =>
      exact (Reads.value? about rfl _).bind fun _ =>
        .pure _

theorem reads_viewSchema (aboutSchema : topics .schema)
    (aboutView : topics .viewSchema) (view : String) :
    ((builtin engine).viewSchema view).Reads engine topics := by
  cases engine with
  | sqlite => exact .pure _
  | postgresql | cockroachdb =>
      refine (Reads.value? aboutView rfl _).bind fun schema? => ?_
      cases schema? with
      | none => exact .throw _
      | some schema => exact .pure schema
  | mysql | oracle =>
      exact (Reads.value? aboutSchema rfl _).bind fun _ => .pure _

theorem reads_enums (about : topics .enums) (schema : String) :
    ((builtin engine).enums schema).Reads engine topics := by
  cases engine with
  | sqlite | oracle => exact .throw _
  | postgresql | cockroachdb | mysql =>
      exact .listOf about rfl EnumRecord.of?_ofRow _

theorem reads_enumLabels (about : topics .enumLabels)
    (schema enumeration : String) :
    ((builtin engine).enumLabels schema enumeration).Reads engine topics := by
  cases engine with
  | sqlite | oracle => exact .throw _
  | postgresql | cockroachdb =>
      exact .listOf about rfl PostgreSql.of?_labelOfRow _
  | mysql => exact (Reads.value? about rfl _).bind fun _ => .pure _

theorem reads_routines (aboutResults : topics .routineResultsExist)
    (about : topics .routines) (schema : String) :
    ((builtin engine).routines schema).Reads engine topics := by
  cases engine with
  | sqlite | oracle => exact .throw _
  | postgresql | cockroachdb =>
      have readsResult : ∀ row : Row,
          DriverError.of? (row.bool 0) = row.fault? [.truth] :=
        fun row => (row.of?_bool 0).trans Option.or_none.symm
      refine (Reads.listOf aboutResults rfl readsResult _).bind fun known => ?_
      split
      · exact .listOf about rfl RoutineRecord.of?_ofRow _
      · exact .pure []
  | mysql => exact .listOf about rfl RoutineRecord.of?_ofRow _

theorem reads_routineParameters (about : topics .routineParameters)
    (schema routine : String) :
    ((builtin engine).routineParameters schema routine).Reads engine
      topics := by
  cases engine with
  | sqlite | oracle => exact .throw _
  | postgresql | cockroachdb | mysql =>
      exact .listOf about rfl ParameterRecord.of?_ofRow _

theorem lists_tables (schema word : String) :
    ((builtin engine).tables schema word).Lists engine .tables 0
      TableRecord.name := by
  have named : ∀ {row table}, engine.tableOfRow word row = .ok table →
      row.text 0 = .ok table.name := fun read =>
    Row.text_eq_ok_iff.mpr (engine.tableOfRow_eq_ok_iff.mp read).name
  have readsRow := fun row => engine.of?_tableOfRow row word
  cases engine with
  | sqlite | postgresql | cockroachdb | mysql | oracle =>
      exact .rows _ rfl readsRow named

theorem lists_columns (schema relation : String) :
    ((builtin engine).columns schema relation).Lists engine .columns 1
      ColumnRecord.name := by
  have named : ∀ {row column}, engine.columnOfRow row = .ok column →
      row.text 1 = .ok column.name := fun read =>
    Row.text_eq_ok_iff.mpr (engine.columnOfRow_eq_ok_iff.mp read).name
  have readsRow := fun row => engine.of?_columnOfRow row
  cases engine with
  | sqlite | postgresql | cockroachdb | mysql | oracle =>
      exact .rows _ rfl readsRow named

theorem reads_foreignKeys (about : topics .foreignKeys)
    (schema relation : String) :
    ((builtin engine).foreignKeys schema relation).Reads engine topics := by
  have readsRow := fun row => engine.of?_foreignKeyOfRow row
  cases engine with
  | sqlite | postgresql | cockroachdb | mysql | oracle =>
      exact .listOf about rfl readsRow _

theorem reads_indexes (about : topics .indexes) (schema relation : String) :
    ((builtin engine).indexes schema relation).Reads engine topics := by
  have readsRow := fun row => engine.of?_indexOfRow row
  cases engine with
  | sqlite | postgresql | cockroachdb | mysql | oracle =>
      exact .listOf about rfl readsRow _

theorem reads_indexColumns (about : topics .indexColumns)
    (schema relation index : String) :
    ((builtin engine).indexColumns schema relation index).Reads engine
      topics := by
  cases engine with
  | sqlite | postgresql | cockroachdb | mysql | oracle =>
      exact .listOf about rfl IndexColumnRecord.of?_ofRow _

private theorem reads_requireOrder (relation index : String)
    (order? : Option String) :
    (requireOrder relation index order?).Reads engine topics := by
  cases order? with
  | none => exact .throw _
  | some order => exact .pure order

theorem reads_indexOrder (about : topics .indexOrder)
    (schema relation index : String) :
    ((builtin engine).indexOrder schema relation index).Reads engine
      topics := by
  cases engine with
  | sqlite | postgresql | cockroachdb | mysql | oracle =>
      exact (Reads.value? about rfl _).bind fun _ => reads_requireOrder _ _ _ _

theorem probes_sequenceTables (schema : String) :
    ((builtin engine).sequenceTables schema).Probes engine .sequence := by
  cases engine with
  | sqlite | postgresql | cockroachdb =>
      exact .listOf rfl rfl of?_nameOfRow _
  | mysql | oracle => exact .unasked

theorem probes_autoIncrementTables (schema : String) :
    ((builtin engine).autoIncrementTables schema).Probes engine
      .autoIncrement := by
  cases engine with
  | sqlite | cockroachdb | mysql | oracle =>
      exact .listOf rfl rfl of?_nameOfRow _
  | postgresql => exact .unasked

end Adapter

namespace Build

open Inquiry

variable {topics : Topic → Prop} (engine : Engine) (options : Options)
  (schema : String)

theorem reads_schemaToLoad (about : topics .schema) :
    (schemaToLoad (Adapter.builtin engine) options).Reads engine topics := by
  unfold schemaToLoad
  cases options.schema with
  | none => exact Adapter.reads_schemaName engine about
  | some schema => exact .pure schema

theorem onlyAsks_schemaToLoad :
    (schemaToLoad (Adapter.builtin engine) options).OnlyAsks := by
  have reads : (schemaToLoad (Adapter.builtin engine) options).Reads engine
      fun _ => True :=
    reads_schemaToLoad engine options trivial
  exact reads.onlyAsks

theorem reads_loadEnumerations (aboutEnums : topics .enums)
    (aboutLabels : topics .enumLabels) :
    (loadEnumerations (Adapter.builtin engine) options schema).Reads engine
      topics := by
  unfold loadEnumerations
  split
  · refine (Adapter.reads_enums engine aboutEnums schema).bind fun records => ?_
    refine .mapM (fun record => ?_) records
    exact (Adapter.reads_enumLabels engine aboutLabels _ _).bind fun _ =>
      .pure _
  · exact .pure []

theorem reads_loadRoutines (aboutResults : topics .routineResultsExist)
    (aboutRoutines : topics .routines)
    (aboutParameters : topics .routineParameters) :
    (loadRoutines (Adapter.builtin engine) options schema).Reads engine
      topics := by
  unfold loadRoutines
  split
  · refine (Adapter.reads_routines engine aboutResults aboutRoutines
      schema).bind fun records => ?_
    refine .mapM (fun record => ?_) records
    exact (Adapter.reads_routineParameters engine aboutParameters _ _).bind
      fun _ => .pure _
  · exact .pure []

theorem reads_loadRelations (aboutTables : topics .tables)
    (aboutColumns : topics .columns) (backed : List String)
    (kind : RelationKind) :
    (loadRelations (Adapter.builtin engine) options schema backed kind).Reads
      engine topics := by
  unfold loadRelations
  refine ((Adapter.lists_tables engine _ _).reads aboutTables rfl).bind
    fun tables => ?_
  refine (Reads.mapM (fun table => ?_) _).bind fun _ => .pure _
  exact ((Adapter.lists_columns engine _ _).reads aboutColumns rfl).bind
    fun _ => .pure _

theorem reads_loadForeignKeys (about : topics .foreignKeys)
    (relations : NameMap Relation) (relation : Relation) :
    (loadForeignKeys (Adapter.builtin engine) schema relations relation).Reads
      engine topics := by
  unfold loadForeignKeys
  refine (Adapter.reads_foreignKeys engine about _ _).bind fun records => ?_
  exact (Reads.known _).bind fun _ => .pure _

theorem reads_resolveForeignKeys (about : topics .foreignKeys)
    (relations : NameMap Relation) :
    (resolveForeignKeys (Adapter.builtin engine) options schema
      relations).Reads engine topics := by
  unfold resolveForeignKeys
  refine (Reads.mapM (fun relation => ?_) _).bind fun _ => .pure _
  exact reads_loadForeignKeys engine schema about relations relation

private theorem reads_loadIndex (aboutColumns : topics .indexColumns)
    (aboutOrder : topics .indexOrder) (relation : Relation)
    (record : IndexRecord) :
    (loadIndex (Adapter.builtin engine) options schema relation record).Reads
      engine topics := by
  unfold loadIndex
  refine (Adapter.reads_indexColumns engine aboutColumns _ _ _).bind
    fun columns => ?_
  refine (Adapter.reads_indexOrder engine aboutOrder _ _ _).bind fun order => ?_
  exact (Reads.known _).bind fun _ => .pure _

theorem reads_loadIndexes (aboutIndexes : topics .indexes)
    (aboutColumns : topics .indexColumns) (aboutOrder : topics .indexOrder)
    (relation : Relation) :
    (loadIndexes (Adapter.builtin engine) options schema relation).Reads engine
      topics := by
  unfold loadIndexes
  refine (Adapter.reads_indexes engine aboutIndexes _ _).bind fun records => ?_
  refine (Reads.mapM (fun record => ?_) records).bind fun _ => .pure _
  exact reads_loadIndex engine options schema aboutColumns aboutOrder _ record

theorem reads_resolveIndexes (aboutIndexes : topics .indexes)
    (aboutColumns : topics .indexColumns) (aboutOrder : topics .indexOrder)
    (relations : NameMap Relation) :
    (resolveIndexes (Adapter.builtin engine) options schema relations).Reads
      engine topics := by
  unfold resolveIndexes
  refine .mapM (fun relation => ?_) _
  exact reads_loadIndexes engine options schema aboutIndexes aboutColumns
    aboutOrder relation

end Build

end SchemaAtlas
