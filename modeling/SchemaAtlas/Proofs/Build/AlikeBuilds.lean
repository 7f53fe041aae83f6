import SchemaAtlas.Proofs.Build.Places
import SchemaAtlas.Proofs.Build.CrossReference
import SchemaAtlas.Proofs.Exchange.Comparing

/-!
# Builds that are alike

Two builds need not find the same relations: the flags of manual primary keys
may differ.  No later phase reads the flags, so what is found for relations that
are alike in everything else is the same, and the graphs are alike.

The two builds are compared phase by phase.  What a phase of the one has to do
with that of the other is assumed of each phase that asks a connection, and
everything between them is followed here.
-/

namespace SchemaAtlas

/-- Two relations are the same but for the flags of manual primary keys, which
are related. -/
structure Relation.Alike (flags : Bool → Bool → Prop) (left right : Relation) :
    Prop where
  others : { left with manualPrimaryKey := right.manualPrimaryKey } = right
  flags : flags left.manualPrimaryKey right.manualPrimaryKey

/-- Two graphs have relations that are alike, register the same foreign keys,
and are the same otherwise, whatever the engine. -/
structure Graph.Alike (flags : Bool → Bool → Prop) (left right : Graph) :
    Prop where
  others : { left with
    engine := right.engine
    relations := right.relations
    foreignKeys := right.foreignKeys } = right
  relations : left.relations.Alike (Relation.Alike flags) right.relations
  places : left.foreignKeys.values.Perm right.foreignKeys.values

theorem map_eq_map_of_forall₂ {α β γ : Type} {related : α → β → Prop}
    {f : α → γ} {g : β → γ} {left : List α} {right : List β}
    (each : List.Forall₂ related left right)
    (same : ∀ item other, related item other → f item = g other) :
    left.map f = right.map g := by
  rw [← List.forall₂_eq_eq_eq, List.forall₂_map_left_iff,
    List.forall₂_map_right_iff]
  exact each.imp same

namespace Relation

theorem SameColumns.refl (relation : Relation) :
    relation.SameColumns relation :=
  ⟨rfl, rfl, rfl⟩

theorem SameColumns.positionOf? {left right : Relation}
    (same : left.SameColumns right) (column : String) :
    left.positionOf? column = right.positionOf? column := by
  rw [Relation.positionOf?, Relation.positionOf?, same.fields]

namespace Alike

variable {flags : Bool → Bool → Prop} {left right : Relation}

/-- What is viewed of relations that are alike is the same, unless it is the
flag. -/
theorem view_eq {α : Type} {view : Relation → α}
    (alike : left.Alike flags right)
    (ignoresFlag : ∀ (relation : Relation) flag,
      view { relation with manualPrimaryKey := flag } = view relation) :
    view left = view right := by
  have same := congrArg view alike.others
  rwa [ignoresFlag] at same

theorem sameColumns (alike : left.Alike flags right) :
    left.SameColumns right where
  name := alike.view_eq fun _ _ => rfl
  table := alike.view_eq fun _ _ => rfl
  fields := alike.view_eq fun _ _ => rfl

theorem withForeignKeys (alike : left.Alike flags right)
    (keys : List ForeignKey) :
    Alike flags { left with foreignKeys := keys }
      { right with foreignKeys := keys } where
  others := congrArg (fun relation : Relation =>
    { relation with foreignKeys := keys }) alike.others
  flags := alike.flags

theorem withIndexes (alike : left.Alike flags right) (indexes : List Index) :
    Alike flags { left with indexes } { right with indexes } where
  others := congrArg (fun relation : Relation =>
    { relation with indexes }) alike.others
  flags := alike.flags

end Alike

end Relation

namespace Build

open Catalog Recorded Session

theorem alike_byNativeName {flags : Bool → Bool → Prop}
    {relations others : List Relation}
    (each : List.Forall₂ (Relation.Alike flags) relations others) :
    (byNativeName relations).Alike (Relation.Alike flags)
      (byNativeName others) := by
  have inserted : ∀ {left right : NameMap Relation},
      left.Alike (Relation.Alike flags) right →
      (relations.foldl (fun map relation =>
        map.insert relation.nativeName relation) left).Alike
        (Relation.Alike flags)
        (others.foldl (fun map relation =>
          map.insert relation.nativeName relation) right) := by
    induction each with
    | nil => exact id
    | @cons relation other _ _ first _ ih =>
        intro left right alike
        apply ih
        show (left.insert relation.nativeName relation).Alike _
          (right.insert other.nativeName other)
        rw [← first.sameColumns.nativeName]
        exact alike.insert _ first
  exact inserted (.empty _)

section Columns

variable {adapter : Adapter} {options : Options} {schema : String}
  {relations others : NameMap Relation} {owner other : Relation}

private theorem refPosition_congr (record : ForeignKeyRecord)
    (same : owner.SameColumns other) :
    refPosition record owner = refPosition record other := by
  simp only [refPosition, same.positionOf?, same.primaryKey?]

/-- How a foreign key is resolved depends on the columns of the relations
only. -/
theorem resolveForeignKey_congr
    (alike : relations.Alike Relation.SameColumns others)
    (same : owner.SameColumns other) (record : ForeignKeyRecord) :
    resolveForeignKey schema relations owner record =
      resolveForeignKey schema others other record := by
  have sameNamed : nameForeignKey owner record =
      nameForeignKey other record := by
    rw [nameForeignKey, nameForeignKey, same.nativeName]
  rw [resolveForeignKey, resolveForeignKey, sameNamed, same.nativeName]
  congr 1
  generalize nameForeignKey other record = named
  have referenced := alike named.refTable
  simp only [resolveNamed, same.positionOf?, same.nativeName]
  generalize relations.find? named.refTable = found,
    others.find? named.refTable = otherFound at referenced ⊢
  cases referenced with
  | none => rfl
  | some sameTarget =>
      simp only [refPosition_congr named sameTarget, sameTarget.nativeName,
        sameTarget.name]

private theorem loadForeignKeys_congr
    (alike : relations.Alike Relation.SameColumns others)
    (same : owner.SameColumns other) :
    loadForeignKeys adapter schema others other =
      loadForeignKeys adapter schema relations owner >>= fun own =>
        pure ⟨other, own.keys⟩ := by
  have sameKeys : resolveForeignKey schema relations owner =
      resolveForeignKey schema others other :=
    funext (resolveForeignKey_congr alike same)
  simp only [loadForeignKeys, same.nativeName, sameKeys, bind_assoc, pure_bind]

private theorem orderFields_congr (same : owner.SameColumns other) :
    orderFields schema owner = orderFields schema other := by
  have sameField : ∀ qualifiedName,
      fieldOfOrdinal qualifiedName owner =
        fieldOfOrdinal qualifiedName other := by
    intro qualifiedName
    funext index columns ordinal
    simp only [fieldOfOrdinal, same.positionOf?]
  funext index columns order
  simp only [orderFields, sameField, same.nativeName]

private theorem loadIndex_congr (same : owner.SameColumns other) :
    loadIndex adapter options schema owner =
      loadIndex adapter options schema other := by
  funext record
  simp only [loadIndex, indexOf, indexAccessor, orderFields_congr same,
    same.nativeName, same.name, same.fields]

private theorem addedIndexes_congr (same : owner.SameColumns other) :
    addedIndexes adapter owner = addedIndexes adapter other := by
  funext records
  simp only [addedIndexes, primaryKeyIndex?, same.primaryKey?, same.fields,
    same.nativeName, same.name]

theorem loadIndexes_congr (same : owner.SameColumns other) :
    loadIndexes adapter options schema other =
      loadIndexes adapter options schema owner >>= fun own =>
        pure ⟨other, own.indexes⟩ := by
  simp only [loadIndexes, same.nativeName, loadIndex_congr same,
    addedIndexes_congr same, bind_assoc, pure_bind]

end Columns

/-- Relations that are alike own the same foreign keys. -/
structure OwnedKeys.Alike (flags : Bool → Bool → Prop) (own other : OwnedKeys) :
    Prop where
  relation : own.relation.Alike flags other.relation
  keys : own.keys = other.keys

structure OwnedIndexes.Alike (flags : Bool → Bool → Prop)
    (own other : OwnedIndexes) : Prop where
  relation : own.relation.Alike flags other.relation
  indexes : own.indexes = other.indexes

section Owned

variable {flags : Bool → Bool → Prop} {options : Options}
  {relations otherRelations : NameMap Relation}

section Keys

variable {owned others : List OwnedKeys}
  (each : List.Forall₂ (OwnedKeys.Alike flags) owned others)

include each

private theorem typePairs_eq_of_alike : typePairs owned = typePairs others := by
  rw [typePairs, typePairs, List.flatMap_def, List.flatMap_def]
  congr 1
  apply map_eq_map_of_forall₂ each
  intro own other alike
  rw [alike.keys, alike.relation.sameColumns.name]

theorem alike_nameAccessors :
    List.Forall₂ (OwnedKeys.Alike flags) (nameAccessors options owned)
      (nameAccessors options others) := by
  rw [nameAccessors, nameAccessors, typePairs_eq_of_alike each,
    List.forall₂_map_left_iff, List.forall₂_map_right_iff]
  apply each.imp
  intro own other alike
  refine ⟨alike.relation, ?_⟩
  have same := alike.relation.sameColumns
  have sameAccessor : ∀ naming,
      accessorUnder options.initialisms naming own.relation =
        accessorUnder options.initialisms naming other.relation := by
    intro naming
    funext key
    simp only [accessorUnder, same.fields]
  simp only [alike.keys, same.name, sameAccessor]

private theorem namedPlaces_eq_of_alike :
    namedPlaces owned = namedPlaces others := by
  rw [namedPlaces, namedPlaces, List.flatMap_def, List.flatMap_def]
  congr 1
  apply map_eq_map_of_forall₂ each
  intro own other alike
  rw [alike.keys, alike.relation.sameColumns.nativeName]

theorem alike_attachForeignKeys
    (alike : relations.Alike (Relation.Alike flags) otherRelations) :
    (attachForeignKeys relations owned).Alike (Relation.Alike flags)
      (attachForeignKeys otherRelations others) := by
  have sameKeys :
      owned.map (fun own => (own.relation.nativeName, own.keys)) =
        others.map fun own => (own.relation.nativeName, own.keys) := by
    apply map_eq_map_of_forall₂ each
    intro own other alike
    rw [alike.keys, alike.relation.sameColumns.nativeName]
  rw [attachForeignKeys, attachForeignKeys, sameKeys]
  apply alike.map
  intro name relation other alike
  have sameOld : relation.foreignKeys = other.foreignKeys :=
    alike.view_eq fun _ _ => rfl
  rw [sameOld]
  exact alike.withForeignKeys _

end Keys

section Indexes

variable {owned others : List OwnedIndexes}
  (each : List.Forall₂ (OwnedIndexes.Alike flags) owned others)

include each

private theorem indexMap_eq_of_alike : indexMap owned = indexMap others := by
  have samePlaces : indexPlaces owned = indexPlaces others := by
    rw [indexPlaces, indexPlaces, List.flatMap_def, List.flatMap_def]
    congr 1
    apply map_eq_map_of_forall₂ each
    intro own other alike
    simp only [alike.indexes, indexKey, alike.relation.sameColumns.nativeName]
  rw [indexMap, indexMap, samePlaces]

theorem alike_attachIndexes
    (alike : relations.Alike (Relation.Alike flags) otherRelations) :
    (attachIndexes relations owned).Alike (Relation.Alike flags)
      (attachIndexes otherRelations others) := by
  have sameIndexes :
      owned.map (fun own => (own.relation.nativeName, own.indexes)) =
        others.map fun own => (own.relation.nativeName, own.indexes) := by
    apply map_eq_map_of_forall₂ each
    intro own other alike
    rw [alike.indexes, alike.relation.sameColumns.nativeName]
  rw [attachIndexes, attachIndexes, sameIndexes]
  apply alike.map
  intro name relation other alike
  have sameOld : relation.indexes = other.indexes :=
    alike.view_eq fun _ _ => rfl
  rw [sameOld]
  exact alike.withIndexes _

end Indexes

end Owned

section Phases

variable {comparison : Comparison (List Request)} {flags : Bool → Bool → Prop}
  {left right : Adapter} {options : Options} {schema : String}

section Inquiries

variable {here there : Connection} {relations others : NameMap Relation}

theorem relates_resolveForeignKeys
    (loads : ∀ relations owner, comparison.Relates here there Eq
      (loadForeignKeys left schema relations owner)
      (loadForeignKeys right schema relations owner))
    (alike : relations.Alike (Relation.Alike flags) others) :
    comparison.Relates here there (List.Forall₂ (OwnedKeys.Alike flags))
      (resolveForeignKeys left options schema relations)
      (resolveForeignKeys right options schema others) := by
  have sameColumns := alike.mono fun _ _ alike => alike.sameColumns
  apply (Comparison.Relates.mapM alike.values ?_).bind
  · intro owned otherOwned each
    exact .pure (alike_nameAccessors each)
  · intro owner other alike
    -- What the left build finds is spelled out, too, to show its owner.
    rw [loadForeignKeys_congr (.refl .refl relations) (.refl owner),
      loadForeignKeys_congr sameColumns alike.sameColumns]
    apply (loads relations owner).bind_eq
    intro own
    exact .pure ⟨alike, rfl⟩

theorem relates_resolveIndexes
    (loads : ∀ relation, comparison.Relates here there Eq
      (loadIndexes left options schema relation)
      (loadIndexes right options schema relation))
    (alike : relations.Alike (Relation.Alike flags) others) :
    comparison.Relates here there (List.Forall₂ (OwnedIndexes.Alike flags))
      (resolveIndexes left options schema relations)
      (resolveIndexes right options schema others) := by
  apply Comparison.Relates.mapM alike.values
  intro owner other alike
  rw [loadIndexes_congr (.refl owner), loadIndexes_congr alike.sameColumns]
  apply (loads owner).bind_eq
  intro own
  exact .pure ⟨alike, rfl⟩

end Inquiries

theorem relates_mergeViews {here there : Surroundings}
    {tables otherTables : NameMap Relation}
    {views otherViews : List (String × Relation)}
    (alike : tables.Alike (Relation.Alike flags) otherTables)
    (each : List.Forall₂ (fun view other =>
      view.1 = other.1 ∧ view.2.Alike flags other.2) views otherViews) :
    comparison.session.Relates here there
      (NameMap.Alike (Relation.Alike flags)) (mergeViews tables views)
      (mergeViews otherTables otherViews) := by
  induction each generalizing tables otherTables with
  | nil => exact .pure alike
  | @cons view other _ _ first _ ih =>
      obtain ⟨name, relation⟩ := view
      obtain ⟨otherName, otherRelation⟩ := other
      obtain ⟨rfl, alikeView⟩ := first
      have replaced : tables.contains name = otherTables.contains name :=
        alike.isSome_find? name
      have merged := ih (alike.insert name alikeView)
      rw [mergeViews, mergeViews, replaced]
      split
      · exact (Comparison.Relates.tell _).bind_eq fun _ => merged
      · exact merged

/-- The phases of two builds that ask a connection find what is alike.  The
tables with generated keys may differ, as long as the relation says how. -/
structure FindAlike (comparison : Comparison (List Request))
    (flags : Bool → Bool → Prop) (backing : List String → List String → Prop)
    (left right : Adapter) (options : Options) (here there : Surroundings) :
    Prop where
  schema : comparison.Relates here.connection there.connection Eq
    (schemaToLoad left options) (schemaToLoad right options)
  enumerations : ∀ schema,
    comparison.Relates here.connection there.connection Eq
      (loadEnumerations left options schema)
      (loadEnumerations right options schema)
  routines : ∀ schema,
    comparison.Relates here.connection there.connection Eq
      (loadRoutines left options schema) (loadRoutines right options schema)
  backed : ∀ schema, comparison.session.Relates here there backing
    (backedTables left schema) (backedTables right schema)
  relations : ∀ schema {backed other}, backing backed other → ∀ kind,
    comparison.Relates here.connection there.connection
      (NameMap.Alike (Relation.Alike flags))
      (loadRelations left options schema backed kind)
      (loadRelations right options schema other kind)
  foreignKeys : ∀ schema relations owner,
    comparison.Relates here.connection there.connection Eq
      (loadForeignKeys left schema relations owner)
      (loadForeignKeys right schema relations owner)
  indexes : ∀ schema relation,
    comparison.Relates here.connection there.connection Eq
      (loadIndexes left options schema relation)
      (loadIndexes right options schema relation)

/-- Builds whose phases find what is alike lead to graphs that are alike. -/
theorem relates_graph {backing : List String → List String → Prop}
    {here there : Surroundings}
    (find : FindAlike comparison flags backing left right options here there) :
    comparison.session.Relates here there (Graph.Alike flags)
      (graph left options) (graph right options) := by
  apply (Comparison.Relates.ask find.schema).bind_eq
  intro schema
  apply (Comparison.Relates.ask (find.enumerations schema)).bind_eq
  intro enumerations
  apply (Comparison.Relates.reach _ _).bind_eq
  intro _
  apply (Comparison.Relates.ask (find.routines schema)).bind_eq
  intro routines
  apply (Comparison.Relates.reach _ _).bind_eq
  intro _
  apply (find.backed schema).bind
  intro backed otherBacked areBacked
  apply (Comparison.Relates.ask (find.relations schema areBacked .table)).bind
  intro tables otherTables alikeTables
  apply (Comparison.Relates.reach _ _).bind_eq
  intro _
  apply (Comparison.Relates.ask (find.relations schema areBacked .view)).bind
  intro views otherViews alikeViews
  apply (Comparison.Relates.reach _ _).bind_eq
  intro _
  apply (relates_mergeViews alikeTables alikeViews.entries).bind
  intro relations otherRelations alike
  apply (Comparison.Relates.reach _ _).bind_eq
  intro _
  apply (Comparison.Relates.ask
    (relates_resolveForeignKeys (find.foreignKeys schema) alike)).bind
  intro owned otherOwned alikeOwned
  -- The keys are drawn, but for the same places.
  apply (Comparison.Relates.searches (searches_registerPlaces _ _)
    (searches_registerPlaces _ _)).bind
  rintro foreignKeys otherForeignKeys ⟨registered, otherRegistered⟩
  rw [← namedPlaces_eq_of_alike alikeOwned] at otherRegistered
  apply (Comparison.Relates.reach _ _).bind_eq
  intro _
  have alikeWithKeys := alike_attachForeignKeys alikeOwned alike
  apply (Comparison.Relates.ask
    (relates_resolveIndexes (find.indexes schema) alikeWithKeys)).bind
  intro ownedIndexes otherIndexes alikeIndexes
  apply (Comparison.Relates.reach _ _).bind_eq
  intro _
  apply (Comparison.Relates.reach _ _).bind_eq
  intro _
  apply Comparison.Relates.pure
  constructor
  case others => rw [indexMap_eq_of_alike alikeIndexes]
  case relations => exact alike_attachIndexes alikeIndexes alikeWithKeys
  case places =>
    exact (perm_of_returns_registerPlaces registered).trans
      (perm_of_returns_registerPlaces otherRegistered).symm

end Phases

end Build

/-- Two builds whose phases find what is alike have runs that are related. -/
theorem GraphBuilder.runs_of_findAlike_of_eq {left right : GraphBuilder}
    {comparison : Comparison (List Request)} {flags : Bool → Bool → Prop}
    {backing : List String → List String → Prop} {here there : Surroundings}
    (sameOptions : left.options = right.options)
    (find : Build.FindAlike comparison flags backing left.adapter
      right.adapter left.options here there)
    (ends : SearchEnds (left.build here).1.outcome)
    (otherEnds : SearchEnds (right.build there).1.outcome) :
    comparison.session.Runs (Graph.Alike flags)
      ((left.build here).1.outcome, (left.build here).1.journal)
      ((right.build there).1.outcome, (right.build there).1.journal) := by
  have relates := Build.relates_graph find
  unfold build at otherEnds ⊢
  rw [← sameOptions] at otherEnds ⊢
  exact relates Journal.none Journal.none (comparison.session.sameRecord _) ends
    otherEnds

@[inherit_doc GraphBuilder.runs_of_findAlike_of_eq]
theorem GraphBuilder.runs_of_findAlike {builder : GraphBuilder}
    {comparison : Comparison (List Request)} {flags : Bool → Bool → Prop}
    {backing : List String → List String → Prop} {here there : Surroundings}
    (find : Build.FindAlike comparison flags backing builder.adapter
      builder.adapter builder.options here there)
    (ends : SearchEnds (builder.build here).1.outcome)
    (otherEnds : SearchEnds (builder.build there).1.outcome) :
    comparison.session.Runs (Graph.Alike flags)
      ((builder.build here).1.outcome, (builder.build here).1.journal)
      ((builder.build there).1.outcome, (builder.build there).1.journal) :=
  runs_of_findAlike_of_eq rfl find ends otherEnds

end SchemaAtlas
