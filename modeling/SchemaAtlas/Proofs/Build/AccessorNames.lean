import SchemaAtlas.Proofs.Build.ForeignKeyMap

/-!
# Names of accessors

The smart rule names the accessor of a foreign key after the referenced type, as
long as no other foreign key of the schema leads from the same type to that one;
otherwise it adds the name of the field.  A type stands here for all relations
with its name, so the count goes through the foreign keys of the whole schema.
-/

namespace SchemaAtlas

open Catalog

namespace Graph

structure HoldsKey (graph : Graph) (place : Place) (relation : Relation)
    (key : ForeignKey) : Prop where
  inGraph : graph.relation? place.relation = some relation
  inRelation : relation.foreignKeys[place.position]? = some key

/-- No other foreign key leads from a type to the type that one leads to. -/
def OnlyBetween (graph : Graph) (place : Place) (owner target : String) :
    Prop :=
  ∀ other relation key, graph.HoldsKey other relation key →
    relation.name = owner → key.refType = target → other = place

/-- The field of a foreign key is one of its relation, and is named after the
column of the key. -/
structure FieldOfKey (graph : Graph) (names : Initialisms) (place : Place)
    (key : ForeignKey) (field : Field) : Prop where
  there : graph.field? key.field = some field
  owner : key.field.relation = place.relation
  column : field.column.name = key.record.column
  name : field.name = names.camel key.record.column

theorem HoldsKey.unique {graph : Graph} {place : Place}
    {relation otherRelation : Relation} {key otherKey : ForeignKey}
    (holds : graph.HoldsKey place relation key)
    (others : graph.HoldsKey place otherRelation otherKey) :
    relation = otherRelation ∧ key = otherKey := by
  have sameRelation := holds.inGraph.symm.trans others.inGraph
  cases sameRelation
  have sameKey := holds.inRelation.symm.trans others.inRelation
  cases sameKey
  exact ⟨rfl, rfl⟩

theorem FieldOfKey.unique {graph : Graph} {names : Initialisms} {place : Place}
    {key : ForeignKey} {field other : Field}
    (isField : graph.FieldOfKey names place key field)
    (alsoField : graph.FieldOfKey names place key other) : field = other :=
  Option.some.inj (isField.there.symm.trans alsoField.there)

/-- The accessors of a graph are named as the options say.  The smart rule adds
the name of the field exactly to the keys that are not alone between their
types, so fields of different names keep such keys apart. -/
structure NamesAccessors (graph : Graph) (options : Options) : Prop where
  fields : ∀ {place relation key}, graph.HoldsKey place relation key →
    ∃ field, graph.FieldOfKey options.initialisms place key field
  smart : options.accessorNaming = .smart → ∀ {place relation key field},
    graph.HoldsKey place relation key →
    graph.FieldOfKey options.initialisms place key field →
      (key.accessor = key.refType ↔
        graph.OnlyBetween place relation.name key.refType) ∧
      (¬graph.OnlyBetween place relation.name key.refType →
        key.accessor = key.refType ++ "By" ++ field.name)
  apart : options.accessorNaming = .smart →
    ∀ {left leftRelation leftKey leftField right rightRelation rightKey
      rightField},
    graph.HoldsKey left leftRelation leftKey →
    graph.FieldOfKey options.initialisms left leftKey leftField →
    graph.HoldsKey right rightRelation rightKey →
    graph.FieldOfKey options.initialisms right rightKey rightField →
    leftRelation.name = rightRelation.name →
    leftKey.refType = rightKey.refType →
    leftField.name ≠ rightField.name →
      leftKey.accessor ≠ rightKey.accessor ∧
      leftKey.accessor ≠ leftKey.refType ∧
      rightKey.accessor ≠ rightKey.refType
  parent : options.accessorNaming = .parent → ∀ {place relation key},
    graph.HoldsKey place relation key → key.accessor = key.refType
  field : options.accessorNaming = .field → ∀ {place relation key field},
    graph.HoldsKey place relation key →
    graph.FieldOfKey options.initialisms place key field →
      key.accessor = key.refType ++ "By" ++ field.name
  key : options.accessorNaming = .key → ∀ {place relation key},
    graph.HoldsKey place relation key →
      key.accessor = key.refType ++ "By" ++ options.initialisms.camel key.name

/-- Keys of the same types that belong to fields of different names are not
alone between these types. -/
theorem not_onlyBetween_of_name_ne {graph : Graph} {names : Initialisms}
    {left right : Place} {leftRelation rightRelation : Relation}
    {leftKey rightKey : ForeignKey} {leftField rightField : Field}
    {owner target : String}
    (holds : graph.HoldsKey left leftRelation leftKey)
    (isField : graph.FieldOfKey names left leftKey leftField)
    (others : graph.HoldsKey right rightRelation rightKey)
    (otherField : graph.FieldOfKey names right rightKey rightField)
    (sameOwner : rightRelation.name = owner)
    (sameTarget : rightKey.refType = target)
    (different : leftField.name ≠ rightField.name) :
    ¬graph.OnlyBetween left owner target := by
  intro only
  have samePlace := only right _ _ others sameOwner sameTarget
  subst samePlace
  obtain ⟨_, sameKey⟩ := holds.unique others
  subst sameKey
  exact different (congrArg Field.name (isField.unique otherField))

end Graph

theorem accessor_ne_refType (target field : String) :
    target ++ "By" ++ field ≠ target := by
  intro same
  have longer := congrArg String.length same
  rw [String.length_append, String.length_append] at longer
  have two : "By".length = 2 := rfl
  omega

/-- Of entries that differ in their items, several have a label exactly if there
is one beside any that has it. -/
theorem one_lt_count_iff {κ π : Type} [BEq κ] [LawfulBEq κ]
    {entries : List (κ × π)}
    (distinct : (entries.map Prod.snd).Nodup) {label : κ} {item : π}
    (listed : (label, item) ∈ entries) :
    1 < (entries.map Prod.fst).count label ↔
      ∃ other, (label, other) ∈ entries ∧ other ≠ item := by
  obtain ⟨front, rest, rfl⟩ := List.append_of_mem listed
  have perm : (front ++ (label, item) :: rest).Perm
      ((label, item) :: (front ++ rest)) := List.perm_middle
  rw [(perm.map Prod.snd).nodup_iff, List.map_cons, List.nodup_cons,
    List.mem_map] at distinct
  rw [(perm.map Prod.fst).count_eq, List.map_cons, List.count_cons_self,
    Nat.lt_add_left_iff_pos, List.count_pos_iff, List.mem_map]
  constructor
  · rintro ⟨⟨_, other⟩, isBeside, rfl⟩
    refine ⟨other, perm.mem_iff.mpr (List.mem_cons_of_mem _ isBeside), ?_⟩
    rintro rfl
    exact distinct.1 ⟨_, isBeside, rfl⟩
  · rintro ⟨other, isEntry, different⟩
    rcases List.mem_cons.mp (perm.mem_iff.mp isEntry) with same | isBeside
    · cases same
      exact absurd rfl different
    · exact ⟨_, isBeside, rfl⟩

namespace Build

open Recorded

def keyTypes (own : OwnedKeys) (key : ForeignKey) : String × String :=
  (own.relation.name, key.refType)

/-- The places of all foreign keys, each with the types of the foreign key. -/
def typedPlaces (owned : List OwnedKeys) : List ((String × String) × Place) :=
  owned.flatMap fun own =>
    own.keys.zipIdx.map fun (key, position) =>
      (keyTypes own key, ⟨own.relation.nativeName, position⟩)

theorem map_fst_typedPlaces (owned : List OwnedKeys) :
    (typedPlaces owned).map Prod.fst = typePairs owned := by
  rw [typedPlaces, typePairs, List.map_flatMap]
  congr 1
  funext own
  conv_rhs => rw [← List.zipIdx_map_fst 0 own.keys, List.map_map]
  rw [List.map_map]
  rfl

theorem typePairs_nameAccessors (options : Options) (owned : List OwnedKeys) :
    typePairs (nameAccessors options owned) = typePairs owned := by
  simp only [typePairs, nameAccessors, List.flatMap_map, List.map_map]
  rfl

private theorem accessor_of_mem_nameAccessors {options : Options}
    {owned : List OwnedKeys}
    {own : OwnedKeys} (isOwned : own ∈ nameAccessors options owned)
    {key : ForeignKey} (isKey : key ∈ own.keys) :
    key.accessor = accessorUnder options.initialisms
      (effectiveNaming options.accessorNaming
        (typePairs (nameAccessors options owned)) own.relation.name key.refType)
      own.relation key := by
  rw [typePairs_nameAccessors]
  obtain ⟨source, _, rfl⟩ := List.mem_map.mp isOwned
  obtain ⟨unnamed, _, rfl⟩ := List.mem_map.mp isKey
  rfl

private theorem accessorUnder_congr {left right : Relation}
    (sameFields : left.fields = right.fields) (names : Initialisms)
    (naming : AccessorNaming) (key : ForeignKey) :
    accessorUnder names naming left key =
      accessorUnder names naming right key := by
  cases naming with
  | smart | parent | key => rfl
  | field => rw [accessorUnder, accessorUnder, sameFields]

namespace Course

variable {adapter : Adapter} {options : Options} {surroundings : Surroundings}
  (course : Course adapter options surroundings) {place : Place}
  {relation : Relation} {key : ForeignKey}

theorem mem_typedPlaces_iff {types : String × String} :
    (types, place) ∈ typedPlaces course.ownedKeys ↔
      ∃ relation key, course.graph.HoldsKey place relation key ∧
        (relation.name, key.refType) = types := by
  constructor
  · intro membership
    obtain ⟨own, isOwned, key, there, sameTypes, owner⟩ :=
      mem_places_iff.mp membership
    obtain ⟨relation, inGraph, same, sameKeys⟩ :=
      course.exists_relation_of_mem_ownedKeys isOwned
    refine ⟨relation, key, ⟨owner ▸ inGraph, sameKeys ▸ there⟩, ?_⟩
    rw [same.name]
    exact sameTypes.symm
  · rintro ⟨relation, key, ⟨inGraph, there⟩, rfl⟩
    obtain ⟨own, isOwned, _, _, sameName, same, _, sameKeys, _⟩ :=
      course.exists_owners inGraph
    refine mem_places_iff.mpr ⟨own, isOwned, key, sameKeys ▸ there, ?_, ?_⟩
    · rw [keyTypes, same.name]
    · exact sameName.symm.trans same.nativeName

/-- What is counted for a foreign key are the foreign keys between its types. -/
theorem one_lt_count_typePairs_iff
    (holds : course.graph.HoldsKey place relation key) :
    1 < (typePairs course.ownedKeys).count (relation.name, key.refType) ↔
      ¬course.graph.OnlyBetween place relation.name key.refType := by
  have distinct : ((typedPlaces course.ownedKeys).map Prod.snd).Nodup :=
    (ordered_places course.ordered_ownedKeys).imp Place.Before.ne
  have listed := course.mem_typedPlaces_iff.mpr ⟨relation, key, holds, rfl⟩
  rw [← map_fst_typedPlaces, one_lt_count_iff distinct listed]
  constructor
  · rintro ⟨other, isOther, different⟩ only
    obtain ⟨_, _, others, sameTypes⟩ := course.mem_typedPlaces_iff.mp isOther
    rw [Prod.mk.injEq] at sameTypes
    exact different (only other _ _ others sameTypes.1 sameTypes.2)
  · intro several
    unfold Graph.OnlyBetween at several
    push Not at several
    obtain ⟨other, otherRelation, otherKey, others, sameOwner, sameTarget,
      different⟩ := several
    refine ⟨other, course.mem_typedPlaces_iff.mpr ⟨_, _, others, ?_⟩, different⟩
    rw [sameOwner, sameTarget]

theorem accessor_of_holdsKey
    (holds : course.graph.HoldsKey place relation key) :
    key.accessor = accessorUnder options.initialisms
      (effectiveNaming options.accessorNaming (typePairs course.ownedKeys)
        relation.name key.refType) relation key := by
  obtain ⟨own, isOwned, _, _, _, same, _, sameKeys, _⟩ :=
    course.exists_owners holds.inGraph
  have isKey : key ∈ own.keys :=
    sameKeys ▸ List.mem_of_getElem? holds.inRelation
  obtain ⟨owned, _, returns⟩ := returns_of_bind course.keysResolved
  rw [eq_of_returns_pure returns] at isOwned ⊢
  rw [accessor_of_mem_nameAccessors isOwned isKey, same.name,
    accessorUnder_congr same.fields]

theorem exists_fieldOfKey (holds : course.graph.HoldsKey place relation key) :
    ∃ field, relation.fields[key.field.position]? = some field ∧
      course.graph.FieldOfKey options.initialisms place key field := by
  have crossed := course.crossReferenced_graph
  obtain ⟨target, _, leads⟩ :=
    crossed.foreignKey holds.inGraph (List.mem_of_getElem? holds.inRelation)
  obtain ⟨field, there, column⟩ := leads.column
  have owner : key.field.relation = place.relation :=
    leads.owned.trans (crossed.named holds.inGraph)
  refine ⟨field, there, ?_, owner, column, ?_⟩
  · rw [Graph.field?, owner, holds.inGraph, Option.bind_some, there]
  · rw [course.eq_fieldOf_of_mem_fields holds.inGraph
      (List.mem_of_getElem? there), fieldOf, column]

theorem field_of_fieldOfKey {field : Field}
    (holds : course.graph.HoldsKey place relation key)
    (isField : course.graph.FieldOfKey options.initialisms place key field) :
    accessorUnder options.initialisms .field relation key =
      key.refType ++ "By" ++ field.name := by
  obtain ⟨found, there, isFound⟩ := course.exists_fieldOfKey holds
  rw [accessorUnder, there, isFound.unique isField]
  rfl

theorem smart_of_holdsKey (smart : options.accessorNaming = .smart)
    {field : Field} (holds : course.graph.HoldsKey place relation key)
    (isField : course.graph.FieldOfKey options.initialisms place key field) :
    (course.graph.OnlyBetween place relation.name key.refType →
      key.accessor = key.refType) ∧
    (¬course.graph.OnlyBetween place relation.name key.refType →
      key.accessor = key.refType ++ "By" ++ field.name) := by
  have named := course.accessor_of_holdsKey holds
  rw [smart, effectiveNaming] at named
  constructor
  · intro only
    rw [if_neg fun several =>
      (course.one_lt_count_typePairs_iff holds).mp several only] at named
    exact named
  · intro several
    rw [if_pos ((course.one_lt_count_typePairs_iff holds).mpr several),
      course.field_of_fieldOfKey holds isField] at named
    exact named

theorem namesAccessors_graph : course.graph.NamesAccessors options where
  fields := by
    intro place relation key holds
    obtain ⟨field, _, isField⟩ := course.exists_fieldOfKey holds
    exact ⟨field, isField⟩
  smart := by
    intro smart place relation key field holds isField
    obtain ⟨alone, beside⟩ := course.smart_of_holdsKey smart holds isField
    refine ⟨⟨?_, alone⟩, beside⟩
    intro bare
    by_contra several
    exact accessor_ne_refType _ _ ((beside several).symm.trans bare)
  apart := by
    intro smart left leftRelation leftKey leftField right rightRelation rightKey
      rightField holds isField others otherField sameOwner sameTarget different
    have leftNamed := (course.smart_of_holdsKey smart holds isField).2
      (Graph.not_onlyBetween_of_name_ne holds isField others otherField
        sameOwner.symm sameTarget.symm different)
    have rightNamed := (course.smart_of_holdsKey smart others otherField).2
      (Graph.not_onlyBetween_of_name_ne others otherField holds isField
        sameOwner sameTarget different.symm)
    rw [leftNamed, rightNamed, sameTarget]
    refine ⟨?_, accessor_ne_refType _ _, accessor_ne_refType _ _⟩
    intro same
    exact different (String.append_right_inj _ |>.mp same)
  parent := by
    intro parent place relation key holds
    have named := course.accessor_of_holdsKey holds
    rw [parent] at named
    exact named
  field := by
    intro byField place relation key field holds isField
    have named := course.accessor_of_holdsKey holds
    rw [byField] at named
    exact named.trans (course.field_of_fieldOfKey holds isField)
  key := by
    intro byKey place relation key holds
    have named := course.accessor_of_holdsKey holds
    rw [byKey] at named
    exact named

end Course

end Build

namespace GraphBuilder

/-- The graph of every successful build names its accessors as its options
say. -/
theorem namesAccessors_of_build {builder : GraphBuilder}
    {surroundings : Surroundings} {graph : Graph}
    (built : (builder.build surroundings).1.outcome = .ok graph) :
    graph.NamesAccessors builder.options := by
  obtain ⟨course, rfl⟩ := Build.exists_course_of_build built
  exact course.namesAccessors_graph

/-- The catalog of a mailroom: the tables `note` and `notes` have one type name
and a foreign key each to a third table, which `card` refers to as well. -/
def mailroomReplies (query : CatalogQuery) (parameters : List String) :
    Except DriverError (List Row) :=
  match query.topic, parameters with
  | .tables, ["table"] =>
    .ok [⟨[.text "card"]⟩, ⟨[.text "note"]⟩, ⟨[.text "notes"]⟩,
      ⟨[.text "user"]⟩]
  | .columns, ["user"] =>
    .ok [⟨[.int 1, .text "id", .text "integer", .bool true, .null, .bool true]⟩]
  | .columns, ["notes"] =>
    .ok [⟨[.int 1, .text "reader", .text "integer", .bool true, .null,
      .bool false]⟩]
  | .columns, _ =>
    .ok [⟨[.int 1, .text "sender", .text "integer", .bool true, .null,
      .bool false]⟩]
  | .foreignKeys, ["notes"] =>
    .ok [⟨[.text "reader", .text "user", .text "id", .null, .null]⟩]
  | .foreignKeys, ["user"] => .ok []
  | .foreignKeys, _ =>
    .ok [⟨[.text "sender", .text "user", .text "id", .null, .null]⟩]
  | _, _ => .ok []

/-- A session with the catalog of a mailroom that draws one number after the
other. -/
def mailroom : Surroundings where
  connection := .scripted mailroomReplies fun _ => .ok ()
  random := ⟨fun draws => draws.toUInt32, 1⟩

theorem namesAccessors_mailroom :
    ∃ graph, ((new .sqlite .standard).build mailroom).1.outcome = .ok graph ∧
      (graph.relations.values.map fun relation =>
        (relation.name, relation.foreignKeys.map ForeignKey.accessor)) =
        [("Card", ["User"]), ("Note", ["UserBySender"]),
          ("Note", ["UserByReader"]), ("User", [])] ∧
      graph.NamesAccessors .standard := by
  obtain ⟨graph, built, seen⟩ := exists_ok_of_view
    (show (((new .sqlite .standard).build mailroom).1.outcome.toOption.map
        fun graph => graph.relations.values.map fun relation =>
          (relation.name, relation.foreignKeys.map ForeignKey.accessor)) =
      some [("Card", ["User"]), ("Note", ["UserBySender"]),
        ("Note", ["UserByReader"]), ("User", [])] by decide +kernel)
  exact ⟨graph, built, seen, namesAccessors_of_build built⟩

end GraphBuilder

end SchemaAtlas
