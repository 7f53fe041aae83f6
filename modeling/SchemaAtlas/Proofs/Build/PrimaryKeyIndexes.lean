import SchemaAtlas.Proofs.Build.CapabilityOverrides
import SchemaAtlas.Proofs.Build.Resolution

/-!
# Indexes of primary keys

A relation owns one index for each that the catalog lists, and at most one more,
which is added for a primary key that no listed index stands behind.  The index
that is added has a single field, the last one of the key, so it tells the rows
of a relation apart in general only where the key has no other field.
-/

namespace SchemaAtlas

open Catalog

/-- An index was added for the primary key of a relation. -/
structure Index.AddedFor (index : Index) (relation : Relation) : Prop where
  synthesized : index.synthesized = true
  unique : index.unique = true
  primary : index.primary = true
  keyed : ∃ position column, relation.primaryKey? = some position ∧
    relation.ColumnAt position column ∧ position ∈ index.fields ∧
    index.name = relation.nativeName ++ "_" ++ column ++ "_pkey"

namespace Relation

/-- An index has to be added for the primary key of a relation. -/
structure LacksKeyIndex (relation : Relation) (synthesis : Bool)
    (records : List IndexRecord) : Prop where
  enabled : synthesis = true
  keyed : relation.HasPrimaryKey
  unmarked : ∀ record ∈ records, ¬record.MarksKey

/-- A relation owns the indexes that are listed for it, in their order, and
behind them the one for its primary key exactly if that has to be added. -/
structure IndexedBy (relation : Relation) (synthesis : Bool)
    (records : List IndexRecord) : Prop where
  shape : ∃ listed added, relation.indexes = listed ++ added ∧
    List.Forall₂ (fun record index => index.Reports record) records listed ∧
    (relation.LacksKeyIndex synthesis records →
      ∃ index, added = [index] ∧ index.AddedFor relation) ∧
    (¬relation.LacksKeyIndex synthesis records → added = [])
  covered : synthesis = true → relation.HasPrimaryKey →
    ∃ index ∈ relation.indexes, index.primary = true
  single : ∀ index ∈ relation.indexes, ∀ other ∈ relation.indexes,
    index.primary = true → other.primary = true →
      index.synthesized = other.synthesized

end Relation

namespace Build

open Recorded

section Added

variable {adapter : Adapter} {relation : Relation} {records : List IndexRecord}

private theorem exists_primaryKeyIndex?_eq_some {position : Nat}
    (keyed : relation.primaryKey? = some position) :
    ∃ index, primaryKeyIndex? relation = some index ∧ index.AddedFor relation ∧
      index.fields = [position] := by
  obtain ⟨field, there, _⟩ :=
    Relation.mem_primaryKeyFields_iff.mp
      (Relation.mem_primaryKeyFields_of_primaryKey? keyed)
  refine ⟨_, Option.bind_eq_some_iff.mpr ⟨position, keyed,
    Option.map_eq_some_iff.mpr ⟨field, there, rfl⟩⟩, ?_, rfl⟩
  constructor
  · rfl
  · rfl
  · rfl
  · exact ⟨position, field.column.name, keyed, ⟨field, there, rfl⟩,
      List.mem_singleton_self position, rfl⟩

private theorem addedFor_of_primaryKeyIndex? {index : Index}
    (added : primaryKeyIndex? relation = some index) :
    index.AddedFor relation ∧
      ∃ position, relation.primaryKey? = some position ∧
        index.fields = [position] := by
  obtain ⟨position, keyed, _⟩ := Option.bind_eq_some_iff.mp added
  obtain ⟨made, madeAdded, addedFor, fields⟩ :=
    exists_primaryKeyIndex?_eq_some keyed
  cases added.symm.trans madeAdded
  exact ⟨addedFor, position, keyed, fields⟩

theorem any_backsPrimaryKey_eq_false_iff :
    records.any IndexRecord.backsPrimaryKey = false ↔
      ∀ record ∈ records, ¬record.MarksKey := by
  simp only [List.any_eq_false, IndexRecord.backsPrimaryKey_iff]

private theorem exists_addedIndexes_of_lacks
    (lacks : relation.LacksKeyIndex
      adapter.capabilities.primaryKeyIndexSynthesis records) :
    ∃ index, addedIndexes adapter relation records = [index] ∧
      index.AddedFor relation := by
  obtain ⟨enabled, keyed, unmarked⟩ := lacks
  obtain ⟨position, keyed⟩ := Relation.hasPrimaryKey_iff.mp keyed
  obtain ⟨index, added, addedFor, _⟩ := exists_primaryKeyIndex?_eq_some keyed
  refine ⟨index, ?_, addedFor⟩
  rw [addedIndexes, enabled, any_backsPrimaryKey_eq_false_iff.mpr unmarked,
    added]
  rfl

private theorem addedIndexes_of_not_lacks
    (owns : ¬relation.LacksKeyIndex
      adapter.capabilities.primaryKeyIndexSynthesis
      records) : addedIndexes adapter relation records = [] := by
  rw [addedIndexes]
  split
  next due =>
    rw [Bool.and_eq_true, Bool.not_eq_true',
      any_backsPrimaryKey_eq_false_iff] at due
    cases added : primaryKeyIndex? relation with
    | none => rfl
    | some index =>
        obtain ⟨_, position, keyed, _⟩ := addedFor_of_primaryKeyIndex? added
        exact absurd
          ⟨due.1, Relation.hasPrimaryKey_iff.mpr ⟨position, keyed⟩, due.2⟩ owns
  · rfl

end Added

/-- A relation that owns listed and added indexes is indexed by the records of
the listed ones. -/
theorem indexedBy_of_indexes_eq {adapter : Adapter} {relation : Relation}
    {records : List IndexRecord} {listed : List Index}
    (each : List.Forall₂ (fun record index => index.Reports record)
      records listed)
    (indexes :
      relation.indexes = listed ++ addedIndexes adapter relation records) :
    relation.IndexedBy adapter.capabilities.primaryKeyIndexSynthesis
      records := by
  have marked : ∀ index ∈ listed, index.primary = true →
      addedIndexes adapter relation records = [] := by
    intro index isListed isPrimary
    obtain ⟨record, isRecord, reports⟩ := exists_mem_of_forall₂ each isListed
    apply addedIndexes_of_not_lacks
    intro lacks
    exact lacks.unmarked record isRecord (reports.primary.mp isPrimary)
  have unsynthesized : ∀ index ∈ listed, index.synthesized = false := by
    intro index isListed
    obtain ⟨_, _, reports⟩ := exists_mem_of_forall₂ each isListed
    exact reports.listed
  constructor
  case shape =>
    exact ⟨listed, _, indexes, each, exists_addedIndexes_of_lacks,
      addedIndexes_of_not_lacks⟩
  case covered =>
    intro synthesis keyed
    rw [indexes]
    by_cases unmarked : ∀ record ∈ records, ¬record.MarksKey
    · obtain ⟨index, added, addedFor⟩ :=
        exists_addedIndexes_of_lacks ⟨synthesis, keyed, unmarked⟩
      rw [added]
      exact ⟨index, List.mem_append_right _ (List.mem_singleton_self index),
        addedFor.primary⟩
    · push Not at unmarked
      obtain ⟨record, isRecord, marks⟩ := unmarked
      obtain ⟨index, isListed, reports⟩ :=
        exists_mem_of_forall₂ each.flip isRecord
      exact ⟨index, List.mem_append_left _ isListed, reports.primary.mpr marks⟩
  case single =>
    rw [indexes]
    intro index owned other alsoOwned isPrimary alsoPrimary
    rcases List.mem_append.mp owned with isListed | isAdded
    · rw [marked index isListed isPrimary, List.append_nil] at alsoOwned
      rw [unsynthesized index isListed, unsynthesized other alsoOwned]
    · rcases List.mem_append.mp alsoOwned with alsoListed | alsoAdded
      · rw [marked other alsoListed alsoPrimary] at isAdded
        cases isAdded
      · have same := (primaryKeyIndex?_of_mem_added isAdded).symm.trans
          (primaryKeyIndex?_of_mem_added alsoAdded)
        rw [Option.some.inj same]

end Build

namespace Engine

open Build Inquiry

/-- The relations of a build own the indexes that their catalog lists and those
that have to be added. -/
theorem indexedBy_of_buildWith {engine : Engine} {options : Options}
    {capabilities : Capabilities} {surroundings : Surroundings}
    {replies : CatalogQuery → List String → Except DriverError (List Row)}
    {execution : String → Except DriverError Unit}
    (scripted : surroundings.connection = .scripted replies execution)
    {graph : Graph}
    (built : (engine.buildWith options capabilities surroundings).outcome =
      .ok graph)
    {name : String} {relation : Relation}
    (held : graph.relation? name = some relation) :
    let inquiry :=
      (Adapter.builtin engine).indexes graph.schema relation.nativeName
    inquiry.Answered surroundings.connection ∧
      relation.IndexedBy capabilities.primaryKeyIndexSynthesis
        (inquiry.reported surroundings.connection) := by
  obtain ⟨course, rfl⟩ := exists_course_of_build built
  obtain ⟨records, listed, found, each, indexes⟩ := course.exists_records held
  have reads : ((Adapter.builtin engine).indexes course.schema
      relation.nativeName).Reads engine fun _ => True :=
    Adapter.reads_indexes engine trivial _ _
  obtain ⟨made, yields⟩ := found.yields
  have reported : records =
      ((Adapter.builtin engine).indexes course.graph.schema
      relation.nativeName).reported surroundings.connection := by
    rw [scripted] at yields ⊢
    exact reads.eq_reported yields
  refine ⟨reads.answered scripted found, ?_⟩
  rw [← reported]
  exact indexedBy_of_indexes_eq each indexes

open GraphBuilder in
theorem indexedBy_library :
    ∃ graph relation,
      (Engine.sqlite.buildWith .standard (Adapter.builtin .sqlite).capabilities
        library).outcome = .ok graph ∧
      graph.relation? "book" = some relation ∧
      relation.indexes.map Index.synthesized = [false, true] ∧
      relation.IndexedBy true
        (((Adapter.builtin .sqlite).indexes graph.schema
          relation.nativeName).reported library.connection) := by
  obtain ⟨graph, built, seen⟩ := exists_ok_of_view
    (show ((Engine.sqlite.buildWith .standard
          (Adapter.builtin .sqlite).capabilities library).outcome.toOption.map
        fun graph => (graph.relation? "book").map fun relation =>
          relation.indexes.map Index.synthesized) =
      some (some [false, true]) by decide)
  obtain ⟨relation, held, synthesized⟩ := Option.map_eq_some_iff.mp seen
  exact ⟨graph, relation, built, held, synthesized,
    (indexedBy_of_buildWith rfl built held).2⟩

end Engine

/-- Some of the fields of rows tell any two of them apart, where a row is given
by what its fields hold. -/
def TellApart (fields : List Nat) (rows : List (Nat → String)) : Prop :=
  rows.Pairwise fun left right =>
    ∃ position ∈ fields, left position ≠ right position

/-- An index that was added for a primary key has one field, the last one of the
key.  It covers the key, and tells apart any rows that the key tells apart, only
if the key has no other field. -/
structure Index.CoversLastOf (index : Index) (relation : Relation) : Prop where
  unique : index.unique = true
  primary : index.primary = true
  last : ∃ position, relation.primaryKey? = some position ∧
    index.fields = [position]
  covers_iff : index.fields = relation.primaryKeyFields ↔
    relation.primaryKeyFields.length = 1
  sound_iff : (∀ rows, TellApart relation.primaryKeyFields rows →
      TellApart index.fields rows) ↔
    relation.primaryKeyFields.length = 1

section Keys

variable {fields : List Nat} {position : Nat}

private theorem eq_singleton_iff_of_getLast?
    (last : fields.getLast? = some position) :
    [position] = fields ↔ fields.length = 1 := by
  constructor
  · rintro rfl
    rfl
  · intro single
    obtain ⟨only, rfl⟩ := List.length_eq_one_iff.mp single
    cases last
    rfl

private theorem exists_mem_ne_of_getLast?
    (last : fields.getLast? = some position) (distinct : fields.Nodup)
    (several : fields.length ≠ 1) :
    ∃ other ∈ fields, other ≠ position := by
  obtain ⟨front, rfl⟩ := List.getLast?_eq_some_iff.mp last
  cases front with
  | nil => exact absurd rfl several
  | cons other front =>
      refine ⟨other, by simp, ?_⟩
      rintro rfl
      simp at distinct

/-- Two rows that differ in one field only are told apart by it alone. -/
theorem exists_tellApart_of_ne {other : Nat} (isField : other ∈ fields)
    (different : other ≠ position) :
    ∃ rows, TellApart fields rows ∧ ¬TellApart [position] rows := by
  refine ⟨[fun _ => "", Function.update (fun _ => "") other "x"], ?_, ?_⟩
  · simp only [TellApart, List.pairwise_pair]
    refine ⟨other, isField, ?_⟩
    rw [Function.update_self]
    decide
  · simp [TellApart, Function.update_of_ne different.symm]

end Keys

theorem Relation.nodup_primaryKeyFields (relation : Relation) :
    relation.primaryKeyFields.Nodup :=
  relation.marksPrimaryKey.increasing.imp Nat.ne_of_lt

private theorem Build.coversLastOf_of_primaryKeyIndex? {relation : Relation}
    {index : Index} (added : primaryKeyIndex? relation = some index) :
    index.CoversLastOf relation := by
  obtain ⟨addedFor, position, keyed, fields⟩ :=
    addedFor_of_primaryKeyIndex? added
  have last : relation.primaryKeyFields.getLast? = some position :=
    relation.primaryKey?_eq ▸ keyed
  have covers : index.fields = relation.primaryKeyFields ↔
      relation.primaryKeyFields.length = 1 := by
    rw [fields]
    exact eq_singleton_iff_of_getLast? last
  refine ⟨addedFor.unique, addedFor.primary, ⟨position, keyed, fields⟩, covers,
    ?_⟩
  constructor
  · intro sound
    by_contra several
    obtain ⟨other, isField, different⟩ := exists_mem_ne_of_getLast? last
      relation.nodup_primaryKeyFields several
    obtain ⟨rows, keyApart, together⟩ :=
      exists_tellApart_of_ne isField different
    exact together (fields ▸ sound rows keyApart)
  · intro single rows keyApart
    rw [covers.mpr single]
    exact keyApart

namespace GraphBuilder

open Build

/-- Every index that a build adds covers the last field of a primary key. -/
theorem coversLastOf_of_build {builder : GraphBuilder}
    {surroundings : Surroundings}
    {graph : Graph} (built : (builder.build surroundings).1.outcome = .ok graph)
    {name : String} {relation : Relation}
    (held : graph.relation? name = some relation) {index : Index}
    (owned : index ∈ relation.indexes) (added : index.synthesized = true) :
    index.CoversLastOf relation := by
  obtain ⟨course, rfl⟩ := exists_course_of_build built
  obtain ⟨records, listed, _, each, indexes⟩ := course.exists_records held
  rw [indexes] at owned
  rcases List.mem_append.mp owned with isListed | isAdded
  · obtain ⟨_, _, reports⟩ := exists_mem_of_forall₂ each isListed
    rw [reports.listed] at added
    cases added
  · exact coversLastOf_of_primaryKeyIndex?
      (primaryKeyIndex?_of_mem_added isAdded)

theorem coversLastOf_library :
    ∃ graph relation index,
      ((new .sqlite .standard).build library).1.outcome = .ok graph ∧
      graph.relation? "author" = some relation ∧ index ∈ relation.indexes ∧
      index.synthesized = true ∧ index.CoversLastOf relation := by
  obtain ⟨graph, built, seen⟩ := exists_ok_of_view
    (show (((new .sqlite .standard).build library).1.outcome.toOption.map
        fun graph => (graph.relation? "author").map fun relation =>
          relation.indexes.map Index.synthesized) =
      some (some [true]) by decide)
  obtain ⟨relation, held, synthesized⟩ := Option.map_eq_some_iff.mp seen
  obtain ⟨index, indexes, added⟩ := List.map_eq_singleton_iff.mp synthesized
  have owned : index ∈ relation.indexes :=
    indexes ▸ List.mem_singleton_self index
  exact ⟨graph, relation, index, built, held, owned, added,
    coversLastOf_of_build built held owned added⟩

/-- The catalog of a warehouse: the primary key of `order_item` consists of both
of its columns, and MySQL does not list its index. -/
def warehouseReplies (query : CatalogQuery) (parameters : List String) :
    Except DriverError (List Row) :=
  match query.topic, parameters with
  | .schema, _ => .ok [⟨[.text "warehouse"]⟩]
  | .tables, ["warehouse", "BASE TABLE"] =>
      .ok [⟨[.text "order_item", .text ""]⟩]
  | .columns, ["warehouse", "order_item"] =>
    .ok [
      ⟨[.int 1, .text "order_id", .text "int", .bool true, .null, .bool true,
        .text ""]⟩,
      ⟨[.int 2, .text "line", .text "int", .bool true, .null, .bool true,
        .text ""]⟩]
  | _, _ => .ok []

def warehouse : Surroundings where
  connection := .scripted warehouseReplies fun _ => .ok ()
  random := ⟨fun _ => 0, 1⟩

/-- The unique index of `order_item` leaves out a field of the primary key, so
rows with different keys have the same entry in it. -/
theorem misses_order_warehouse :
    ∃ graph relation index,
      ((new .mysql .standard).build warehouse).1.outcome = .ok graph ∧
      graph.relation? "order_item" = some relation ∧ index ∈ relation.indexes ∧
      index.synthesized = true ∧ index.unique = true ∧ index.primary = true ∧
      relation.primaryKeyFields = [0, 1] ∧ index.fields = [1] ∧
      ∃ rows, TellApart relation.primaryKeyFields rows ∧
        ¬TellApart index.fields rows := by
  obtain ⟨graph, built, seen⟩ := exists_ok_of_view
    (show (((new .mysql .standard).build warehouse).1.outcome.toOption.map
        fun graph => (graph.relation? "order_item").map fun relation =>
          (relation.primaryKeyFields, (relation.indexes.filter fun index =>
            index.synthesized && index.unique && index.primary).map
              Index.fields)) =
      some (some ([0, 1], [[1]])) by decide)
  obtain ⟨relation, held, seen⟩ := Option.map_eq_some_iff.mp seen
  rw [Prod.mk.injEq, List.map_eq_singleton_iff] at seen
  obtain ⟨key, index, chosen, fields⟩ := seen
  have isChosen : index ∈ _ := chosen ▸ List.mem_singleton_self index
  simp only [List.mem_filter, Bool.and_eq_true] at isChosen
  obtain ⟨owned, ⟨synthesized, unique⟩, primary⟩ := isChosen
  refine ⟨graph, relation, index, built, held, owned, synthesized, unique,
    primary, key, fields, ?_⟩
  rw [key, fields]
  exact exists_tellApart_of_ne List.mem_cons_self Nat.zero_ne_one

end GraphBuilder

end SchemaAtlas
