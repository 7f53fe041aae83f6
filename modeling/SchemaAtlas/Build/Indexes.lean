import SchemaAtlas.Build.Load

/-!
# Indexes of a graph

The fields of an index follow the order that the catalog reports as a list of
column ids, never the order in which the columns happen to be listed.  Where the
catalog lists no index for the primary key, one can be added.
-/

namespace SchemaAtlas

open Catalog

namespace Build

/-- The field for one column id of an index order. -/
def fieldOfOrdinal (qualifiedName : String) (relation : Relation)
    (index : String) (columns : List IndexColumnRecord)
    (ordinal : List Char) : Except Error Nat :=
  match Text.signed64? ordinal with
  | none =>
    .error (.indexOrdinal qualifiedName index (String.ofList ordinal))
  | some columnId =>
    match columns.find? fun column => column.columnId == columnId with
    | none => .error (.indexColumn qualifiedName index columnId)
    | some column =>
      match relation.positionOf? column.name with
      | none => .error (.indexField qualifiedName index column.name)
      | some position => .ok position

/-- The positions of the fields of an index, in index order.  An order without
any column id is refused. -/
def orderFields (schema : String) (relation : Relation) (index : String)
    (columns : List IndexColumnRecord) (order : String) :
    Except Error (List Nat) :=
  let qualifiedName := qualified schema relation.nativeName
  match Text.words order.toList with
  | [] => .error (.indexOrdinal qualifiedName index order)
  | ordinals =>
    ordinals.mapM (fieldOfOrdinal qualifiedName relation index columns)

/-- The accessor of an index: the type, in the plural where several rows may be
found, and the name of the index or of its fields. -/
def indexAccessor (options : Options) (relation : Relation)
    (record : IndexRecord) (fields : List Nat) : String :=
  let found :=
    if record.unique then relation.name else Inflection.plural relation.name
  let indexName := Text.lowercase record.name
  let key :=
    if options.useIndexNames && !indexName.isEmpty &&
        indexName != "primary" then
      options.initialisms.camel indexName
    else
      "".intercalate
        (fields.filterMap fun position =>
          relation.fields[position]?.map Field.name)
  found ++ "By" ++ key

def indexOf (options : Options) (relation : Relation) (record : IndexRecord)
    (fields : List Nat) : Index where
  name := record.name
  accessor := indexAccessor options relation record fields
  fields := fields
  unique := record.unique
  primary := record.backsPrimaryKey
  synthesized := false
  record := record

/-- The unique index of the primary key, for a catalog that lists none. -/
def primaryKeyIndex? (relation : Relation) : Option Index :=
  relation.primaryKey?.bind fun position =>
    relation.fields[position]?.map fun field =>
      let name :=
        relation.nativeName ++ "_" ++ field.column.name ++ "_pkey"
      { name
        accessor := relation.name ++ "By" ++ field.name
        fields := [position]
        unique := true
        primary := true
        synthesized := true
        record :=
          { name, unique := true, primary := true, origin := none } }

/-- Ask for the columns and the order of an index. -/
def loadIndex (adapter : Adapter) (options : Options) (schema : String)
    (relation : Relation) (record : IndexRecord) : Inquiry Index := do
  let columns ←
    adapter.indexColumns schema relation.nativeName record.name
  let order ← adapter.indexOrder schema relation.nativeName record.name
  let fields ← Recorded.ofExcept
    (orderFields schema relation record.name columns order)
  return indexOf options relation record fields

structure OwnedIndexes where
  relation : Relation
  indexes : List Index

/-- The indexes that the adapter adds to those that the catalog lists. -/
def addedIndexes (adapter : Adapter) (relation : Relation)
    (records : List IndexRecord) : List Index :=
  if adapter.capabilities.primaryKeyIndexSynthesis &&
      !records.any IndexRecord.backsPrimaryKey then
    (primaryKeyIndex? relation).toList
  else []

def loadIndexes (adapter : Adapter) (options : Options) (schema : String)
    (relation : Relation) : Inquiry OwnedIndexes := do
  let records ← adapter.indexes schema relation.nativeName
  let listed ← records.mapM (loadIndex adapter options schema relation)
  return ⟨relation, listed ++ addedIndexes adapter relation records⟩

/-- The key of an index in the map for the whole schema: its name, behind that
of its table if the catalog lists it. -/
def indexKey (relation : Relation) (index : Index) : String :=
  if index.synthesized then index.name
  else relation.nativeName ++ "_" ++ index.name

/-- The places of all indexes, each with its key. -/
def indexPlaces (owned : List OwnedIndexes) : List (String × Place) :=
  owned.flatMap fun own =>
    own.indexes.zipIdx.map fun (index, position) =>
      (indexKey own.relation index, ⟨own.relation.nativeName, position⟩)

/-- The map of the places of all indexes.  Of two indexes with one key, the
later is found. -/
def indexMap (owned : List OwnedIndexes) : NameMap Place :=
  (indexPlaces owned).foldl (fun map (key, place) => map.insert key place)
    .empty

def attachIndexes (relations : NameMap Relation) (owned : List OwnedIndexes) :
    NameMap Relation :=
  let indexesOf := owned.map fun own =>
    (own.relation.nativeName, own.indexes)
  relations.map fun name relation =>
    { relation with
      indexes := (indexesOf.lookup name).getD relation.indexes }

/-- Resolve the indexes of all relations, in the order of their names. -/
def resolveIndexes (adapter : Adapter) (options : Options) (schema : String)
    (relations : NameMap Relation) : Inquiry (List OwnedIndexes) :=
  relations.values.mapM (loadIndexes adapter options schema)

end Build

end SchemaAtlas
