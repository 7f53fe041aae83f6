import SchemaAtlas.Adapter.Sqlite
import SchemaAtlas.Proofs.Build.Places

/-!
# Cross-referenced graphs

In the graph of a successful build every position and every place leads
somewhere: a foreign key from a field of its relation to a field of a relation
of the schema, an index to fields of its relation, and an entry of the two
global maps to a foreign key or an index.  Positions are found while foreign
keys and indexes are resolved.  They stay valid because what is attached to a
relation afterwards changes none of its columns.
-/

namespace SchemaAtlas

open Catalog

namespace Relation

/-- The field at a position stands for the column of a name. -/
def ColumnAt (relation : Relation) (position : Nat) (column : String) : Prop :=
  ∃ field, relation.fields[position]? = some field ∧
    field.column.name = column

/-- The primary key consists of the positions of the flagged fields, in order;
its last position stands for it where one position is asked for. -/
structure MarksPrimaryKey (relation : Relation) : Prop where
  increasing : relation.primaryKeyFields.Pairwise (· < ·)
  flagged : ∀ position, position ∈ relation.primaryKeyFields ↔
    ∃ field, relation.fields[position]? = some field ∧
      field.column.inPrimaryKey = true
  last : relation.primaryKey? = relation.primaryKeyFields.getLast?
  missing : relation.primaryKey? = none ↔ relation.primaryKeyFields = []

end Relation

/-- A foreign key leads from a column of its owner to a column of its target: to
the one that the catalog names, or else to the primary key. -/
structure ForeignKey.Leads (key : ForeignKey) (owner target : Relation) :
    Prop where
  owned : key.field.relation = owner.nativeName
  column : owner.ColumnAt key.field.position key.record.column
  referenced : key.refField.relation = key.record.refTable
  refInRange : key.refField.position < target.fields.length
  refColumn : ∀ column, key.record.refColumn = some column → column ≠ "" →
    target.ColumnAt key.refField.position column
  refPrimaryKey :
    (∀ column, key.record.refColumn = some column → column = "") →
      target.primaryKey? = some key.refField.position
  refType : key.refType = target.name

/-- Every reference of a graph leads to something that the graph holds. -/
structure Graph.CrossReferenced (graph : Graph) : Prop where
  named : ∀ {name relation}, graph.relation? name = some relation →
    relation.nativeName = name
  primaryKey : ∀ {name relation}, graph.relation? name = some relation →
    relation.MarksPrimaryKey
  foreignKey : ∀ {name relation key}, graph.relation? name = some relation →
    key ∈ relation.foreignKeys →
      ∃ target, graph.relation? key.record.refTable = some target ∧
        key.Leads relation target
  index : ∀ {name relation index}, graph.relation? name = some relation →
    index ∈ relation.indexes →
      ∀ position ∈ index.fields, position < relation.fields.length
  foreignKeyPlace : ∀ {key place}, graph.foreignKeys.find? key = some place →
    ∃ relation, graph.relation? place.relation = some relation ∧
      place.position < relation.foreignKeys.length
  indexPlace : ∀ {key place}, graph.indexes.find? key = some place →
    ∃ relation, graph.relation? place.relation = some relation ∧
      place.position < relation.indexes.length
  foreignKeysListed :
    graph.foreignKeyList.map Prod.fst = graph.foreignKeys.keys
  indexesListed : graph.indexList.map Prod.fst = graph.indexes.keys

namespace Relation

theorem ColumnAt.lt {relation : Relation} {position : Nat} {column : String}
    (found : relation.ColumnAt position column) :
    position < relation.fields.length := by
  obtain ⟨field, there, _⟩ := found
  exact (List.getElem?_eq_some_iff.mp there).1

theorem columnAt_of_positionOf? {relation : Relation} {column : String}
    {position : Nat} (found : relation.positionOf? column = some position) :
    relation.ColumnAt position column := by
  obtain ⟨inRange, same, _⟩ :=
    List.findIdx?_eq_some_iff_getElem.mp found
  exact ⟨relation.fields[position], List.getElem?_eq_getElem inRange,
    eq_of_beq same⟩

theorem mem_primaryKeyFields_iff {relation : Relation} {position : Nat} :
    position ∈ relation.primaryKeyFields ↔
      ∃ field, relation.fields[position]? = some field ∧
        field.column.inPrimaryKey = true := by
  simp [relation.primaryKeyFields_eq, keyPositions,
    List.mem_zipIdx_iff_getElem?]

theorem marksPrimaryKey (relation : Relation) : relation.MarksPrimaryKey where
  increasing := by
    rw [relation.primaryKeyFields_eq]
    exact (increasing_positions relation.fields).sublist
      (List.filter_sublist.map Prod.snd)
  flagged := fun _ => mem_primaryKeyFields_iff
  last := relation.primaryKey?_eq
  missing := by rw [relation.primaryKey?_eq, List.getLast?_eq_none_iff]

theorem mem_primaryKeyFields_of_primaryKey? {relation : Relation}
    {position : Nat} (found : relation.primaryKey? = some position) :
    position ∈ relation.primaryKeyFields :=
  List.mem_of_getLast? (relation.primaryKey?_eq ▸ found)

theorem lt_of_primaryKey? {relation : Relation} {position : Nat}
    (found : relation.primaryKey? = some position) :
    position < relation.fields.length := by
  obtain ⟨field, there, _⟩ :=
    mem_primaryKeyFields_iff.mp (mem_primaryKeyFields_of_primaryKey? found)
  exact (List.getElem?_eq_some_iff.mp there).1

namespace SameColumns

variable {left right : Relation} (same : left.SameColumns right)

include same

theorem nativeName : left.nativeName = right.nativeName := by
  rw [Relation.nativeName, Relation.nativeName, same.table]

theorem primaryKey? : left.primaryKey? = right.primaryKey? := by
  rw [left.primaryKey?_eq, right.primaryKey?_eq, left.primaryKeyFields_eq,
    right.primaryKeyFields_eq, same.fields]

theorem columnAt_iff {position : Nat} {column : String} :
    left.ColumnAt position column ↔ right.ColumnAt position column := by
  rw [ColumnAt, ColumnAt, same.fields]

end SameColumns

end Relation

/-- Where every entry of a map leads to an item, a list of the items loses none
of the names. -/
theorem map_fst_filterMap {β : Type} {entries : List (String × Place)}
    {item? : Place → Option β}
    (each : ∀ entry ∈ entries, ∃ item, item? entry.2 = some item) :
    (entries.filterMap fun (key, place) =>
      (item? place).map fun item => (key, item)).map Prod.fst =
        entries.map Prod.fst := by
  induction entries with
  | nil => rfl
  | cons entry rest ih =>
      obtain ⟨item, found⟩ := each entry List.mem_cons_self
      have others := ih fun other later =>
        each other (List.mem_cons_of_mem _ later)
      simp [found, others]

/-- What a foreign key leads to depends on the columns of the relations only. -/
theorem ForeignKey.Leads.congr {key : ForeignKey}
    {owner target newOwner newTarget : Relation}
    (leads : key.Leads owner target) (sameOwner : newOwner.SameColumns owner)
    (sameTarget : newTarget.SameColumns target) :
    key.Leads newOwner newTarget where
  owned := leads.owned.trans sameOwner.nativeName.symm
  column := sameOwner.columnAt_iff.mpr leads.column
  referenced := leads.referenced
  refInRange := sameTarget.fields ▸ leads.refInRange
  refColumn := by
    intro column named nonempty
    exact sameTarget.columnAt_iff.mpr (leads.refColumn column named nonempty)
  refPrimaryKey := by
    intro unnamed
    exact sameTarget.primaryKey?.trans (leads.refPrimaryKey unnamed)
  refType := leads.refType.trans sameTarget.name.symm

namespace Build

open Recorded

variable {adapter : Adapter} {options : Options} {schema : String}

/-- The position that a foreign key refers to is that of the named column, or
that of the primary key. -/
theorem refPosition_spec {record : ForeignKeyRecord} {target : Relation}
    {position : Nat} (found : refPosition record target = .ok position) :
    position < target.fields.length ∧
      (∀ column, record.refColumn = some column → column ≠ "" →
        target.ColumnAt position column) ∧
      ((∀ column, record.refColumn = some column → column = "") →
        target.primaryKey? = some position) := by
  unfold refPosition at found
  split at found
  next column named =>
    obtain ⟨named, nonempty⟩ := Option.filter_eq_some_iff.mp named
    cases there : target.positionOf? column with
    | none => rw [there] at found; cases found
    | some place =>
        rw [there] at found
        cases found
        have atColumn := Relation.columnAt_of_positionOf? there
        refine ⟨atColumn.lt, ?_, ?_⟩
        · intro other alsoNamed _
          rw [named] at alsoNamed
          cases alsoNamed
          exact atColumn
        · intro unnamed
          rw [unnamed column named] at nonempty
          cases nonempty
  next unnamed =>
    cases there : target.primaryKey? with
    | none => rw [there] at found; cases found
    | some place =>
        rw [there] at found
        cases found
        refine ⟨Relation.lt_of_primaryKey? there, ?_, fun _ => rfl⟩
        intro column named nonempty
        rw [named, Option.filter_eq_none_iff] at unnamed
        simp [nonempty] at unnamed

/-- A named record that is resolved has found its column, the referenced
relation and the position there. -/
theorem of_resolveNamed {relations : NameMap Relation} {relation : Relation}
    {record : ForeignKeyRecord} {key : ForeignKey}
    (resolved : resolveNamed relations relation record = .ok key) :
    ∃ position target place,
      relation.positionOf? record.column = some position ∧
      relations.find? record.refTable = some target ∧
      refPosition record target = .ok place ∧
      key = {
        name := record.name
        accessor := ""
        field := ⟨relation.nativeName, position⟩
        refField := ⟨target.nativeName, place⟩
        refType := target.name
        record } := by
  unfold resolveNamed at resolved
  split at resolved
  · cases resolved
  next position owning =>
    split at resolved
    · cases resolved
    next target loaded =>
      cases referred : refPosition record target with
      | error miss => rw [referred] at resolved; cases resolved
      | ok place =>
          rw [referred] at resolved
          cases resolved
          exact ⟨position, target, place, owning, loaded, referred, rfl⟩

theorem resolveNamed_of_resolveForeignKey {relations : NameMap Relation}
    {relation : Relation} {record : ForeignKeyRecord} {key : ForeignKey}
    (resolved :
      resolveForeignKey schema relations relation record = .ok key) :
    resolveNamed relations relation (nameForeignKey relation record) =
      .ok key := by
  rw [resolveForeignKey] at resolved
  cases outcome : resolveNamed relations relation
      (nameForeignKey relation record) with
  | error miss => simp [outcome, Except.mapError] at resolved
  | ok found => simpa [outcome, Except.mapError] using resolved

/-- A foreign key that is resolved leads to a relation that was loaded. -/
theorem leads_of_resolveForeignKey {relations : NameMap Relation}
    {relation : Relation} {record : ForeignKeyRecord} {key : ForeignKey}
    (named : relations.Every fun name relation => relation.nativeName = name)
    (resolved :
      resolveForeignKey schema relations relation record = .ok key) :
    ∃ target, relations.find? key.record.refTable = some target ∧
      key.Leads relation target := by
  obtain ⟨position, target, place, owning, loaded, referred, rfl⟩ :=
    of_resolveNamed (resolveNamed_of_resolveForeignKey resolved)
  obtain ⟨inRange, atColumn, atPrimaryKey⟩ := refPosition_spec referred
  refine ⟨target, loaded, ?_⟩
  exact {
    owned := rfl
    column := Relation.columnAt_of_positionOf? owning
    referenced := named loaded
    refInRange := inRange
    refColumn := atColumn
    refPrimaryKey := atPrimaryKey
    refType := rfl }

private theorem lt_of_fieldOfOrdinal {qualifiedName index : String}
    {relation : Relation} {columns : List IndexColumnRecord}
    {ordinal : List Char} {position : Nat}
    (found : fieldOfOrdinal qualifiedName relation index columns ordinal =
      .ok position) :
    position < relation.fields.length := by
  unfold fieldOfOrdinal at found
  split at found
  · cases found
  · split at found
    · cases found
    · split at found
      · cases found
      next there =>
        cases found
        exact (Relation.columnAt_of_positionOf? there).lt

theorem lt_of_orderFields {relation : Relation} {index order : String}
    {columns : List IndexColumnRecord} {fields : List Nat}
    (ordered : orderFields schema relation index columns order = .ok fields) :
    ∀ position ∈ fields, position < relation.fields.length := by
  intro position membership
  unfold orderFields at ordered
  split at ordered
  · cases ordered
  · obtain ⟨ordinal, _, found⟩ :=
      exists_mem_of_forall₂ (forall₂_of_mapM_eq_ok ordered) membership
    exact lt_of_fieldOfOrdinal found

private theorem lt_of_addedIndexes {relation : Relation}
    {records : List IndexRecord} {index : Index}
    (added : index ∈ addedIndexes adapter relation records) :
    ∀ position ∈ index.fields, position < relation.fields.length := by
  intro position membership
  obtain ⟨last, isLast, added⟩ :=
    Option.bind_eq_some_iff.mp (primaryKeyIndex?_of_mem_added added)
  obtain ⟨field, there, rfl⟩ := Option.map_eq_some_iff.mp added
  rw [List.mem_singleton.mp membership]
  exact Relation.lt_of_primaryKey? isLast

theorem lt_of_returns_loadIndexes {connection : Connection}
    {relation : Relation} {own : OwnedIndexes}
    (returns : (loadIndexes adapter options schema relation).Returns connection
      own) :
    ∀ index ∈ own.indexes, ∀ position ∈ index.fields,
      position < relation.fields.length := by
  obtain ⟨_, records, listed, _, each, shape⟩ := of_returns_loadIndexes returns
  intro index membership
  rw [shape] at membership
  rcases List.mem_append.mp membership with inCatalog | added
  · obtain ⟨record, _, returns⟩ := exists_mem_of_forall₂ each inCatalog
    obtain ⟨columns, order, fields, ordered, rfl⟩ :=
      of_returns_loadIndex returns
    exact lt_of_orderFields ordered
  · exact lt_of_addedIndexes added

namespace Course

variable {surroundings : Surroundings}
  (course : Course adapter options surroundings)

theorem leads_of_mem_keys {own : OwnedKeys} (isOwned : own ∈ course.ownedKeys)
    {key : ForeignKey} (membership : key ∈ own.keys) :
    ∃ target, course.relations.find? key.record.refTable = some target ∧
      key.Leads own.relation target := by
  obtain ⟨owned, run, returns⟩ := returns_of_bind course.keysResolved
  rw [eq_of_returns_pure returns, nameAccessors] at isOwned
  obtain ⟨unnamed, isUnnamed, rfl⟩ := List.mem_map.mp isOwned
  obtain ⟨relation, _, returns⟩ :=
    exists_mem_of_forall₂ (forall₂_of_returns_mapM run) isUnnamed
  obtain ⟨sameRelation, resolved⟩ := of_returns_loadForeignKeys returns
  obtain ⟨plain, isPlain, rfl⟩ := List.mem_map.mp membership
  obtain ⟨record, resolved⟩ := resolved plain isPlain
  obtain ⟨target, loaded, leads⟩ := leads_of_resolveForeignKey
    (fun _ _ found => (course.every_relations found).named) resolved
  refine ⟨target, loaded, ?_⟩
  rw [← sameRelation] at leads
  exact { leads with }

/-- A relation that owns foreign keys is in the graph, with the same columns. -/
theorem exists_relation_of_mem_ownedKeys {own : OwnedKeys}
    (isOwned : own ∈ course.ownedKeys) :
    ∃ relation,
      course.graph.relation? own.relation.nativeName = some relation ∧
      relation.SameColumns own.relation ∧ relation.foreignKeys = own.keys := by
  have withKeys : course.relationsWithKeys.find? own.relation.nativeName =
      some { own.relation with foreignKeys := own.keys } :=
    course.relationsWithKeys_iff.mpr ⟨own, isOwned, rfl, rfl⟩
  have ownsIndexes : { own.relation with foreignKeys := own.keys } ∈
      course.ownedIndexes.map OwnedIndexes.relation :=
    course.owners_ownedIndexes ▸ NameMap.mem_values_iff.mpr ⟨_, withKeys⟩
  obtain ⟨indexed, isIndexed, same⟩ := List.mem_map.mp ownsIndexes
  refine ⟨{ indexed.relation with indexes := indexed.indexes }, ?_, ?_, ?_⟩
  · exact course.relation?_graph_iff.mpr ⟨indexed, isIndexed, same ▸ rfl, rfl⟩
  · rw [same]
    exact ⟨rfl, rfl, rfl⟩
  · rw [same]

theorem exists_sameColumns_of_loaded {name : String} {loaded : Relation}
    (found : course.relations.find? name = some loaded) :
    ∃ relation, course.graph.relation? name = some relation ∧
      relation.SameColumns loaded := by
  have isOwner : loaded ∈ course.ownedKeys.map OwnedKeys.relation :=
    course.owners_ownedKeys ▸ NameMap.mem_values_iff.mpr ⟨name, found⟩
  obtain ⟨own, isOwned, rfl⟩ := List.mem_map.mp isOwner
  obtain ⟨relation, inGraph, same, _⟩ :=
    course.exists_relation_of_mem_ownedKeys isOwned
  rw [(course.every_relations found).named] at inGraph
  exact ⟨relation, inGraph, same⟩

theorem exists_owners {name : String} {relation : Relation}
    (found : course.graph.relation? name = some relation) :
    ∃ ownKeys ∈ course.ownedKeys, ∃ own ∈ course.ownedIndexes,
      relation.nativeName = name ∧ relation.SameColumns ownKeys.relation ∧
      relation.SameColumns own.relation ∧
      relation.foreignKeys = ownKeys.keys ∧ relation.indexes = own.indexes := by
  obtain ⟨own, isOwned, named, rfl⟩ := course.relation?_graph_iff.mp found
  have withKeys : own.relation ∈ course.relationsWithKeys.values :=
    course.owners_ownedIndexes ▸ List.mem_map_of_mem isOwned
  obtain ⟨keyName, withKeys⟩ := NameMap.mem_values_iff.mp withKeys
  obtain ⟨ownKeys, ownsKeys, _, same⟩ :=
    course.relationsWithKeys_iff.mp withKeys
  refine ⟨ownKeys, ownsKeys, own, isOwned, named, ?_, ⟨rfl, rfl, rfl⟩, ?_, rfl⟩
  · rw [same]
    exact ⟨rfl, rfl, rfl⟩
  · rw [same]

theorem eq_fieldOf_of_mem_fields {name : String} {relation : Relation}
    (held : course.graph.relation? name = some relation) {field : Field}
    (membership : field ∈ relation.fields) :
    field = fieldOf adapter options course.graph.schema field.column := by
  obtain ⟨ownKeys, isOwner, _, _, _, same, _⟩ := course.exists_owners held
  have isLoaded : ownKeys.relation ∈ course.relations.values :=
    course.owners_ownedKeys ▸ List.mem_map_of_mem isOwner
  obtain ⟨loadedName, isLoaded⟩ := NameMap.mem_values_iff.mp isLoaded
  obtain ⟨kind, table, columns, shape⟩ :=
    (course.every_relations isLoaded).loaded
  rw [same.fields, shape, relationOf_eq] at membership
  obtain ⟨column, _, rfl⟩ := List.mem_map.mp membership
  rfl

theorem lt_of_mem_indexes {own : OwnedIndexes}
    (isOwned : own ∈ course.ownedIndexes) {index : Index}
    (membership : index ∈ own.indexes) :
    ∀ position ∈ index.fields, position < own.relation.fields.length := by
  obtain ⟨relation, _, returns⟩ := exists_mem_of_forall₂
    (forall₂_of_returns_mapM course.indexesResolved) isOwned
  rw [(of_returns_loadIndexes returns).1]
  exact lt_of_returns_loadIndexes returns index membership

theorem every_foreignKeys :
    course.graph.foreignKeys.Every fun _ place =>
      ∃ relation, course.graph.relation? place.relation = some relation ∧
        place.position < relation.foreignKeys.length := by
  refine every_of_returns_registerPlaces course.keysRegistered
    (NameMap.every_empty _) ?_
  intro named membership _
  obtain ⟨own, isOwned, key, there, _, owner⟩ := mem_places_iff.mp membership
  obtain ⟨relation, inGraph, _, sameKeys⟩ :=
    course.exists_relation_of_mem_ownedKeys isOwned
  refine ⟨relation, owner ▸ inGraph, ?_⟩
  rw [sameKeys]
  exact (List.getElem?_eq_some_iff.mp there).1

theorem every_indexes :
    course.graph.indexes.Every fun _ place =>
      ∃ relation, course.graph.relation? place.relation = some relation ∧
        place.position < relation.indexes.length := by
  intro key place found
  have isPlace : (key, place) ∈ indexPlaces course.ownedIndexes := by
    have found : (indexMap course.ownedIndexes).find? key = some place := found
    rw [indexMap, NameMap.find?_foldl_insert, NameMap.find?_empty,
      Option.or_none, List.lookup_eq_some_iff] at found
    obtain ⟨before, behind, shape, _⟩ := found
    rw [← List.mem_reverse, shape]
    exact List.mem_append_right _ List.mem_cons_self
  obtain ⟨own, isOwned, index, there, _, owner⟩ := mem_places_iff.mp isPlace
  exact ⟨{ own.relation with indexes := own.indexes },
    course.relation?_graph_iff.mpr ⟨own, isOwned, owner.symm, rfl⟩,
    (List.getElem?_eq_some_iff.mp there).1⟩

theorem crossReferenced_graph : course.graph.CrossReferenced where
  named := by
    intro name relation found
    obtain ⟨_, _, _, _, named, _⟩ := course.exists_owners found
    exact named
  primaryKey := by
    intro name relation _
    exact relation.marksPrimaryKey
  foreignKey := by
    intro name relation key found membership
    obtain ⟨ownKeys, isOwned, _, _, _, sameOwner, _, sameKeys, _⟩ :=
      course.exists_owners found
    obtain ⟨loaded, isLoaded, leads⟩ :=
      course.leads_of_mem_keys isOwned (sameKeys ▸ membership)
    obtain ⟨target, inGraph, sameTarget⟩ :=
      course.exists_sameColumns_of_loaded isLoaded
    exact ⟨target, inGraph, leads.congr sameOwner sameTarget⟩
  index := by
    intro name relation index found membership
    obtain ⟨_, _, own, isOwned, _, _, sameOwner, _, sameIndexes⟩ :=
      course.exists_owners found
    rw [sameOwner.fields]
    exact course.lt_of_mem_indexes isOwned (sameIndexes ▸ membership)
  foreignKeyPlace := fun found => course.every_foreignKeys found
  indexPlace := fun found => course.every_indexes found
  foreignKeysListed := by
    apply map_fst_filterMap
    intro entry membership
    obtain ⟨relation, inGraph, inRange⟩ :=
      course.every_foreignKeys (NameMap.mem_entries_iff.mp membership)
    refine ⟨relation.foreignKeys[entry.2.position], ?_⟩
    rw [Graph.foreignKeyAt?, inGraph, Option.bind_some,
      List.getElem?_eq_getElem inRange]
  indexesListed := by
    apply map_fst_filterMap
    intro entry membership
    obtain ⟨relation, inGraph, inRange⟩ :=
      course.every_indexes (NameMap.mem_entries_iff.mp membership)
    refine ⟨relation.indexes[entry.2.position], ?_⟩
    rw [Graph.indexAt?, inGraph, Option.bind_some,
      List.getElem?_eq_getElem inRange]

end Course

end Build

namespace GraphBuilder

/-- The graph of every successful build is cross-referenced. -/
theorem crossReferenced_of_build {builder : GraphBuilder}
    {surroundings : Surroundings} {graph : Graph}
    (built : (builder.build surroundings).1.outcome = .ok graph) :
    graph.CrossReferenced := by
  obtain ⟨course, rfl⟩ := Build.exists_course_of_build built
  exact course.crossReferenced_graph

/-- The catalog of a library: books refer to the primary key of their author,
and one index of them is listed. -/
def libraryReplies (query : CatalogQuery) (parameters : List String) :
    Except DriverError (List Row) :=
  match query.topic, parameters with
  | .tables, ["table"] => .ok [⟨[.text "book"]⟩, ⟨[.text "author"]⟩]
  | .columns, ["author"] =>
    .ok [⟨[.int 1, .text "id", .text "integer", .bool true, .null,
      .bool true]⟩]
  | .columns, ["book"] =>
    .ok [
      ⟨[.int 1, .text "title", .text "text", .bool true, .null, .bool true]⟩,
      ⟨[.int 2, .text "author_id", .text "integer", .bool true, .null,
        .bool false]⟩]
  | .foreignKeys, ["book"] =>
    .ok [⟨[.text "author_id", .text "author", .null, .null, .null]⟩]
  | .indexes, ["book"] =>
    .ok [⟨[.text "book_author", .bool false, .text "c"]⟩]
  | .indexColumns, ["book_author"] =>
    .ok [⟨[.int 0, .int 1, .text "author_id"]⟩]
  | .indexOrder, ["book_author"] => .ok [⟨[.text "1"]⟩]
  | _, _ => .ok []

def library : Surroundings where
  connection := .scripted libraryReplies fun _ => .ok ()
  random := ⟨fun _ => 0, 1⟩

theorem crossReferenced_library :
    ∃ graph, ((new .sqlite .standard).build library).1.outcome = .ok graph ∧
      graph.foreignKeys.values = [⟨"book", 0⟩] ∧
      graph.indexes.values = [⟨"author", 0⟩, ⟨"book", 0⟩, ⟨"book", 1⟩] ∧
      graph.CrossReferenced := by
  obtain ⟨graph, built, seen⟩ := exists_ok_of_view
    (show (((new .sqlite .standard).build library).1.outcome.toOption.map
        fun graph => (graph.foreignKeys.values, graph.indexes.values)) =
      some ([⟨"book", 0⟩], [⟨"author", 0⟩, ⟨"book", 0⟩, ⟨"book", 1⟩]) by
        decide)
  rw [Prod.mk.injEq] at seen
  exact ⟨graph, built, seen.1, seen.2, crossReferenced_of_build built⟩

end GraphBuilder

end SchemaAtlas
