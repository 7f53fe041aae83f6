import SchemaAtlas.Proofs.Bindings
import SchemaAtlas.Proofs.Build.Course

/-!
# Relations in the course of a build

Every relation of a build stands under its own native name and is a relation as
it was loaded.  Foreign keys and indexes are attached to it later, which changes
neither its name nor its fields, so a position that was found in an earlier
phase means the same in the graph.
-/

namespace SchemaAtlas

open Catalog

namespace NameMap

variable {α : Type}

/-- Something holds of every binding of a map. -/
def Every (map : NameMap α) (holds : String → α → Prop) : Prop :=
  ∀ ⦃name value⦄, map.find? name = some value → holds name value

theorem every_empty (holds : String → α → Prop) :
    (empty : NameMap α).Every holds := by
  intro name value found
  rw [find?_empty] at found
  cases found

theorem Every.insert {map : NameMap α} {holds : String → α → Prop}
    (every : map.Every holds) {name : String} {value : α}
    (new : holds name value) : (map.insert name value).Every holds := by
  intro key bound found
  rw [find?_insert] at found
  by_cases same : key = name
  · rw [if_pos same] at found
    cases found
    exact same ▸ new
  · rw [if_neg same] at found
    exact every found

end NameMap

theorem increasing_positions {α : Type} (items : List α) :
    (items.zipIdx.map Prod.snd).Pairwise (· < ·) := by
  rw [List.zipIdx_map_snd]
  exact List.pairwise_lt_range'

/-- The catalog says of an index that it stands behind the primary key. -/
def Catalog.IndexRecord.MarksKey (record : IndexRecord) : Prop :=
  record.primary = true ∨ record.origin = some "pk"

theorem Catalog.IndexRecord.backsPrimaryKey_iff {record : IndexRecord} :
    record.backsPrimaryKey = true ↔ record.MarksKey := by
  simp [backsPrimaryKey, MarksKey]

/-- An index is the one that the catalog lists with a record. -/
structure Index.Reports (index : Index) (record : IndexRecord) : Prop where
  same : index.record = record
  name : index.name = record.name
  unique : index.unique = record.unique
  primary : index.primary = true ↔ record.MarksKey
  listed : index.synthesized = false

/-- Two relations with the same name and table and the same fields. -/
structure Relation.SameColumns (left right : Relation) : Prop where
  name : left.name = right.name
  table : left.table = right.table
  fields : left.fields = right.fields

namespace Options

/-- An entry of a list is a name, but for the case of the letters. -/
def Names (entries : List String) (name : String) : Prop :=
  ∃ entry ∈ entries, Text.lowercase entry = Text.lowercase name

instance (entries : List String) (name : String) :
    Decidable (Names entries name) :=
  inferInstanceAs (Decidable (∃ entry ∈ entries, _))

theorem mentions_eq (entries : List String) :
    mentions entries = fun name => decide (Names entries name) := by
  funext name
  rw [Bool.eq_iff_iff, decide_eq_true_iff]
  simp [mentions, Names]

theorem ignoresTable_eq (options : Options) :
    options.ignoresTable = fun name =>
      decide (Names options.ignoredTables name) :=
  mentions_eq options.ignoredTables

theorem ignoresField_eq (options : Options) :
    options.ignoresField = fun name =>
      decide (Names options.ignoredFields name) :=
  mentions_eq options.ignoredFields

end Options

namespace Build

open Recorded

variable {adapter : Adapter} {options : Options} {schema : String}
  {backed : List String}

/-- A relation as it was loaded, under its native name. -/
structure LoadedAs (adapter : Adapter) (options : Options) (schema : String)
    (backed : List String) (name : String) (relation : Relation) : Prop where
  named : relation.nativeName = name
  loaded : ∃ kind table columns,
    relation = relationOf adapter options schema kind backed table columns

theorem every_foldl_insert_nativeName {holds : String → Relation → Prop}
    {relations : List Relation} {map : NameMap Relation}
    (each : ∀ relation ∈ relations, holds relation.nativeName relation)
    (every : map.Every holds) :
    (relations.foldl (fun map relation =>
      map.insert relation.nativeName relation) map).Every holds := by
  induction relations generalizing map with
  | nil => exact every
  | cons relation rest ih =>
      apply ih
      · intro other later
        exact each other (List.mem_cons_of_mem _ later)
      · exact every.insert (each relation List.mem_cons_self)

theorem byNativeName_eq_foldl (relations : List Relation) :
    byNativeName relations =
      (relations.map fun relation => (relation.nativeName, relation)).foldl
        (fun map (key, value) => map.insert key value) .empty := by
  rw [List.foldl_map]
  rfl

theorem find?_byNativeName (relations : List Relation) (name : String) :
    (byNativeName relations).find? name =
      relations.reverse.find? fun relation => relation.nativeName == name := by
  rw [byNativeName_eq_foldl, NameMap.find?_foldl_insert, NameMap.find?_empty,
    Option.or_none, ← List.map_reverse, NameMap.lookup_map_name]

/-- What holds of every relation made of the columns that are found for a row of
the listing holds of all that are loaded. -/
theorem every_loaded {connection : Connection} {kind : RelationKind}
    {holds : String → Relation → Prop}
    (each : ∀ table columns,
      (adapter.columns schema table.name).Returns connection columns →
      holds table.name
        (relationOf adapter options schema kind backed table columns))
    {relations : NameMap Relation}
    (returns : (loadRelations adapter options schema backed kind).Returns
      connection relations) : relations.Every holds := by
  obtain ⟨tables, _, returns⟩ := returns_of_bind returns
  obtain ⟨loaded, run, returns⟩ := returns_of_bind returns
  rw [eq_of_returns_pure returns, byNativeName]
  refine every_foldl_insert_nativeName ?_ (NameMap.every_empty _)
  intro relation membership
  obtain ⟨table, _, returns⟩ :=
    exists_mem_of_forall₂ (forall₂_of_returns_mapM run) membership
  obtain ⟨columns, found, returns⟩ := returns_of_bind returns
  rw [eq_of_returns_pure returns, nativeName_relationOf]
  exact each table columns found

theorem every_of_returns_loadRelations {connection : Connection}
    {kind : RelationKind} {relations : NameMap Relation}
    (returns : (loadRelations adapter options schema backed kind).Returns
      connection relations) :
    relations.Every (LoadedAs adapter options schema backed) :=
  every_loaded (fun table columns _ =>
    ⟨nativeName_relationOf .., kind, table, columns, rfl⟩) returns

/-- What holds of the bindings of two maps holds after the one was merged into
the other. -/
theorem every_of_returns_mergeViews {surroundings : Surroundings}
    {holds : String → Relation → Prop} {tables merged : NameMap Relation}
    {views : List (String × Relation)}
    (returns : (mergeViews tables views).Returns surroundings merged)
    (everyTable : tables.Every holds)
    (everyView : ∀ view ∈ views, holds view.1 view.2) :
    merged.Every holds := by
  induction views generalizing tables with
  | nil =>
      rw [mergeViews] at returns
      rw [eq_of_returns_pure returns]
      exact everyTable
  | cons view rest ih =>
      obtain ⟨name, relation⟩ := view
      have returns : (mergeViews (tables.insert name relation) rest).Returns
          surroundings merged := by
        rw [mergeViews] at returns
        split at returns
        · obtain ⟨_, _, returns⟩ := returns_of_bind returns
          exact returns
        · exact returns
      exact ih returns
        (everyTable.insert (everyView (name, relation) List.mem_cons_self))
        (fun other later => everyView other (List.mem_cons_of_mem _ later))

theorem map_nativeName_values {relations : NameMap Relation}
    (named : relations.Every fun name relation => relation.nativeName = name) :
    relations.values.map Relation.nativeName = relations.keys := by
  rw [NameMap.values, NameMap.keys, List.map_map]
  apply List.map_congr_left
  intro entry membership
  exact named (NameMap.mem_entries_iff.mp membership)

/-- Where every relation of a map by native names owns something, a map that
looks it up by name changes each relation by what that relation owns. -/
theorem find?_map_owned_iff {γ β : Type} {relations : NameMap Relation}
    {owned : List γ} {owner : γ → Relation} {content : γ → β}
    (named : relations.Every fun name relation => relation.nativeName = name)
    (owners : owned.map owner = relations.values)
    (change : Relation → Option β → Relation)
    {name : String} {changed : Relation} :
    (relations.map fun name relation =>
        change relation ((owned.map fun own =>
          ((owner own).nativeName, content own)).lookup name)).find? name =
        some changed ↔
      ∃ own ∈ owned, (owner own).nativeName = name ∧
        changed = change (owner own) (some (content own)) := by
  have distinct :
      (owned.map fun own => (owner own).nativeName).Nodup := by
    have names : owned.map (fun own => (owner own).nativeName) =
        relations.keys := by
      rw [← map_nativeName_values named, ← owners, List.map_map]
      rfl
    rw [names]
    exact relations.nodup_keys
  rw [NameMap.find?_map, Option.map_eq_some_iff]
  constructor
  · rintro ⟨relation, found, rfl⟩
    have isValue : relation ∈ owned.map owner :=
      owners ▸ NameMap.mem_values_iff.mpr ⟨name, found⟩
    obtain ⟨own, membership, rfl⟩ := List.mem_map.mp isValue
    have sameName := named found
    refine ⟨own, membership, sameName, ?_⟩
    rw [← sameName, NameMap.lookup_map_of_mem distinct membership]
  · rintro ⟨own, membership, rfl, rfl⟩
    have isValue : owner own ∈ relations.values :=
      owners ▸ List.mem_map_of_mem membership
    obtain ⟨name, found⟩ := NameMap.mem_values_iff.mp isValue
    have sameName := named found
    refine ⟨owner own, sameName.symm ▸ found, ?_⟩
    rw [NameMap.lookup_map_of_mem distinct membership]

theorem find?_attachForeignKeys_iff {relations : NameMap Relation}
    {owned : List OwnedKeys}
    (named : relations.Every fun name relation => relation.nativeName = name)
    (owners : owned.map OwnedKeys.relation = relations.values)
    {name : String} {changed : Relation} :
    (attachForeignKeys relations owned).find? name = some changed ↔
      ∃ own ∈ owned, own.relation.nativeName = name ∧
        changed = { own.relation with foreignKeys := own.keys } :=
  find?_map_owned_iff named owners fun relation keys =>
    { relation with foreignKeys := keys.getD relation.foreignKeys }

theorem find?_attachIndexes_iff {relations : NameMap Relation}
    {owned : List OwnedIndexes}
    (named : relations.Every fun name relation => relation.nativeName = name)
    (owners : owned.map OwnedIndexes.relation = relations.values)
    {name : String} {changed : Relation} :
    (attachIndexes relations owned).find? name = some changed ↔
      ∃ own ∈ owned, own.relation.nativeName = name ∧
        changed = { own.relation with indexes := own.indexes } :=
  find?_map_owned_iff named owners fun relation indexes =>
    { relation with indexes := indexes.getD relation.indexes }

/-- What a relation owns once its foreign keys are resolved: each of them comes
from a record of the catalog. -/
theorem of_returns_loadForeignKeys {connection : Connection}
    {relations : NameMap Relation} {relation : Relation} {own : OwnedKeys}
    (returns : (loadForeignKeys adapter schema relations relation).Returns
      connection own) :
    own.relation = relation ∧ ∀ key ∈ own.keys, ∃ record,
      resolveForeignKey schema relations relation record = .ok key := by
  obtain ⟨records, _, returns⟩ := returns_of_bind returns
  obtain ⟨keys, resolved, returns⟩ := returns_of_bind returns
  rw [eq_of_returns_pure returns]
  refine ⟨rfl, ?_⟩
  intro key membership
  obtain ⟨record, _, run⟩ := exists_mem_of_forall₂
    (forall₂_of_mapM_eq_ok (eq_of_returns_ofExcept resolved)) membership
  exact ⟨record, run⟩

theorem of_returns_loadIndex {connection : Connection} {relation : Relation}
    {record : IndexRecord} {index : Index}
    (returns : (loadIndex adapter options schema relation record).Returns
      connection index) :
    ∃ columns order fields,
      orderFields schema relation record.name columns order = .ok fields ∧
        index = indexOf options relation record fields := by
  obtain ⟨columns, _, returns⟩ := returns_of_bind returns
  obtain ⟨order, _, returns⟩ := returns_of_bind returns
  obtain ⟨fields, ordered, returns⟩ := returns_of_bind returns
  exact ⟨columns, order, fields, eq_of_returns_ofExcept ordered,
    eq_of_returns_pure returns⟩

/-- What a relation owns once its indexes are loaded: each of them is listed by
the catalog or is the one that is added for the primary key. -/
theorem of_returns_loadIndexes {connection : Connection} {relation : Relation}
    {own : OwnedIndexes}
    (returns : (loadIndexes adapter options schema relation).Returns connection
      own) :
    own.relation = relation ∧ ∃ records listed,
      (adapter.indexes schema relation.nativeName).Returns connection records ∧
      List.Forall₂ (fun record index =>
        (loadIndex adapter options schema relation record).Returns connection
          index) records listed ∧
      own.indexes = listed ++ addedIndexes adapter relation records := by
  obtain ⟨records, reported, returns⟩ := returns_of_bind returns
  obtain ⟨listed, run, returns⟩ := returns_of_bind returns
  rw [eq_of_returns_pure returns]
  exact ⟨rfl, records, listed, reported, forall₂_of_returns_mapM run, rfl⟩

theorem primaryKeyIndex?_of_mem_added {relation : Relation}
    {records : List IndexRecord} {index : Index}
    (membership : index ∈ addedIndexes adapter relation records) :
    primaryKeyIndex? relation = some index := by
  rw [addedIndexes] at membership
  split at membership
  · exact Option.mem_toList.mp membership
  · cases membership

private theorem reports_of_returns_loadIndex {connection : Connection}
    {relation : Relation} {record : IndexRecord} {index : Index}
    (returns : (loadIndex adapter options schema relation record).Returns
      connection index) : index.Reports record := by
  obtain ⟨_, _, _, _, rfl⟩ := of_returns_loadIndex returns
  exact ⟨rfl, rfl, rfl, IndexRecord.backsPrimaryKey_iff, rfl⟩

namespace Course

variable {surroundings : Surroundings}
  (course : Course adapter options surroundings)

/-- What holds of every relation made of the columns that are found for a name
holds of all that are merged. -/
theorem every_merged {holds : String → Relation → Prop}
    (each : ∀ kind table columns,
      (adapter.columns course.schema table.name).Returns
        surroundings.connection columns →
      holds table.name (relationOf adapter options course.schema kind
        course.backed table columns)) : course.relations.Every holds := by
  refine every_of_returns_mergeViews course.viewsMerged ?_ ?_
  · exact every_loaded (each .table) course.tablesLoaded
  · intro view membership
    exact every_loaded (each .view) course.viewsLoaded
      (NameMap.mem_entries_iff.mp membership)

theorem every_relations :
    course.relations.Every
      (LoadedAs adapter options course.schema course.backed) :=
  course.every_merged fun kind table columns _ =>
    ⟨nativeName_relationOf .., kind, table, columns, rfl⟩

/-- The relations own their foreign keys in the order of their names. -/
theorem owners_ownedKeys :
    course.ownedKeys.map OwnedKeys.relation = course.relations.values := by
  obtain ⟨owned, run, returns⟩ := returns_of_bind course.keysResolved
  have owners : owned.map OwnedKeys.relation = course.relations.values := by
    apply map_eq_of_forall₂
    apply (forall₂_of_returns_mapM run).imp
    intro relation own returns
    exact (of_returns_loadForeignKeys returns).1
  rw [eq_of_returns_pure returns, ← owners, nameAccessors, List.map_map]
  rfl

theorem relationsWithKeys_iff {name : String} {relation : Relation} :
    course.relationsWithKeys.find? name = some relation ↔
      ∃ own ∈ course.ownedKeys, own.relation.nativeName = name ∧
        relation = { own.relation with foreignKeys := own.keys } :=
  find?_attachForeignKeys_iff
    (fun _ _ found => (course.every_relations found).named)
    course.owners_ownedKeys

theorem owners_ownedIndexes :
    course.ownedIndexes.map OwnedIndexes.relation =
      course.relationsWithKeys.values := by
  apply map_eq_of_forall₂
  apply (forall₂_of_returns_mapM course.indexesResolved).imp
  intro relation own returns
  exact (of_returns_loadIndexes returns).1

theorem every_relationsWithKeys :
    course.relationsWithKeys.Every fun name relation =>
      relation.nativeName = name := by
  intro name relation found
  obtain ⟨own, _, named, rfl⟩ := course.relationsWithKeys_iff.mp found
  exact named

theorem relation?_graph_iff {name : String} {relation : Relation} :
    course.graph.relation? name = some relation ↔
      ∃ own ∈ course.ownedIndexes, own.relation.nativeName = name ∧
        relation = { own.relation with indexes := own.indexes } :=
  find?_attachIndexes_iff course.every_relationsWithKeys
    course.owners_ownedIndexes

/-- The records that were found for the indexes of a relation decide which it
owns. -/
theorem exists_records {name : String} {relation : Relation}
    (held : course.graph.relation? name = some relation) :
    ∃ records listed,
      (adapter.indexes course.schema relation.nativeName).Returns
        surroundings.connection records ∧
      List.Forall₂ (fun record index => index.Reports record) records listed ∧
      relation.indexes = listed ++ addedIndexes adapter relation records := by
  obtain ⟨own, membership, _, rfl⟩ := course.relation?_graph_iff.mp held
  obtain ⟨source, _, returns⟩ := exists_mem_of_forall₂
    (forall₂_of_returns_mapM course.indexesResolved) membership
  obtain ⟨sameSource, records, listed, found, each, indexes⟩ :=
    of_returns_loadIndexes returns
  subst sameSource
  refine ⟨records, listed, found, ?_, indexes⟩
  apply each.imp
  intro record index loads
  exact reports_of_returns_loadIndex loads

end Course

end Build

end SchemaAtlas
