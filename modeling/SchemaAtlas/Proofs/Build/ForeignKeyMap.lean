import SchemaAtlas.Adapter.PostgreSql
import SchemaAtlas.Proofs.Build.TwoBuilds

/-!
# The map of foreign keys

The map of the foreign keys of a schema finds every foreign key of every
relation under one key: the name of the foreign key with a number that was
drawn.  A key that is in use is never taken again, so it does not matter that
names repeat or look like the keys of other names.  What is drawn decides the
keys and nothing else.
-/

namespace SchemaAtlas

open Catalog

/-- The map of foreign keys is a one-to-one correspondence between keys and
places of foreign keys, and every key is the name of its foreign key with a
number. -/
structure Graph.RegistersForeignKeys (graph : Graph) : Prop where
  registered : ∀ {place foreignKey},
    graph.foreignKeyAt? place = some foreignKey →
      ∃! key, graph.foreignKeys.find? key = some place
  located : ∀ {key place}, graph.foreignKeys.find? key = some place →
    ∃ foreignKey, ∃ number : UInt32,
      graph.foreignKeyAt? place = some foreignKey ∧
      key = foreignKey.name ++ "_" ++ Text.decimal number.toNat

namespace Build.Course

open Recorded

variable {adapter : Adapter} {options : Options} {surroundings : Surroundings}
  (course : Course adapter options surroundings)

theorem mem_namedPlaces_iff {name : String} {place : Place} :
    (name, place) ∈ namedPlaces course.ownedKeys ↔
      ∃ foreignKey, course.graph.foreignKeyAt? place = some foreignKey ∧
        foreignKey.name = name := by
  constructor
  · intro membership
    obtain ⟨own, isOwned, foreignKey, there, named, owner⟩ :=
      mem_places_iff.mp membership
    obtain ⟨relation, inGraph, _, sameKeys⟩ :=
      course.exists_relation_of_mem_ownedKeys isOwned
    refine ⟨foreignKey, ?_, named.symm⟩
    rw [Graph.foreignKeyAt?, owner, inGraph, Option.bind_some, sameKeys, there]
  · rintro ⟨foreignKey, found, rfl⟩
    obtain ⟨relation, inGraph, there⟩ := Option.bind_eq_some_iff.mp found
    obtain ⟨own, isOwned, _, _, sameName, same, _, sameKeys, _⟩ :=
      course.exists_owners inGraph
    refine mem_places_iff.mpr ⟨own, isOwned, foreignKey, sameKeys ▸ there, rfl,
      ?_⟩
    exact sameName.symm.trans same.nativeName

theorem ordered_ownedKeys :
    course.ownedKeys.Pairwise fun left right =>
      left.relation.nativeName < right.relation.nativeName :=
  ordered_owners (fun _ _ found => (course.every_relations found).named)
    course.owners_ownedKeys

theorem values_foreignKeys :
    course.graph.foreignKeys.values.Perm
      ((namedPlaces course.ownedKeys).map Prod.snd) := by
  have registered := perm_of_returns_registerPlaces course.keysRegistered
  rw [← List.append_nil (List.map _ _)]
  exact registered

theorem nodup_values_foreignKeys : course.graph.foreignKeys.values.Nodup := by
  rw [course.values_foreignKeys.nodup_iff]
  -- The places are listed in order, and nothing comes before itself.
  have ordered : ((namedPlaces course.ownedKeys).map Prod.snd).Pairwise
      Place.Before :=
    ordered_places course.ordered_ownedKeys
  exact ordered.imp Place.Before.ne

theorem registersForeignKeys_graph : course.graph.RegistersForeignKeys where
  registered := by
    intro place foreignKey found
    apply NameMap.existsUnique_of_mem_values course.nodup_values_foreignKeys
    have isPlace := course.mem_namedPlaces_iff.mpr ⟨foreignKey, found, rfl⟩
    exact course.values_foreignKeys.mem_iff.mpr
      (List.mem_map.mpr ⟨_, isPlace, rfl⟩)
  located := by
    have each : course.graph.foreignKeys.Every fun key place =>
        ∃ foreignKey, ∃ number : UInt32,
          course.graph.foreignKeyAt? place = some foreignKey ∧
          key = foreignKey.name ++ "_" ++ Text.decimal number.toNat := by
      refine every_of_returns_registerPlaces course.keysRegistered
        (NameMap.every_empty _) ?_
      rintro ⟨name, place⟩ membership number
      obtain ⟨foreignKey, found, rfl⟩ :=
        course.mem_namedPlaces_iff.mp membership
      exact ⟨foreignKey, number, found, rfl⟩
    intro key place found
    exact each found

end Build.Course

namespace GraphBuilder

/-- The graph of a successful build registers its foreign keys, and the numbers
that a build draws show in the keys of the foreign keys only. -/
theorem registersForeignKeys_of_build (builder : GraphBuilder)
    (surroundings : Surroundings) :
    (∀ graph, (builder.build surroundings).1.outcome = .ok graph →
      graph.RegistersForeignKeys) ∧
    ∀ random, SearchEnds (builder.build surroundings).1.outcome →
      SearchEnds
        (builder.build { surroundings with random }).1.outcome →
      (builder.build surroundings).1.SameButKeys
        (builder.build { surroundings with random }).1 := by
  constructor
  · intro graph built
    obtain ⟨course, rfl⟩ := Build.exists_course_of_build built
    exact course.registersForeignKeys_graph
  · intro random ends otherEnds
    exact sameButKeys_of_findTheSame rfl (.refl _ _ _) ends otherEnds

/-- The catalog of a registry: two relations have a constraint of the same name,
and one constraint is named like a key of the others. -/
def registryReplies (query : CatalogQuery) (parameters : List String) :
    Except DriverError (List Row) :=
  match query.topic, parameters with
  | .tables, [_, "r"] =>
    .ok [⟨[.text "deed", .null]⟩, ⟨[.text "lease", .null]⟩,
      ⟨[.text "owner", .null]⟩]
  | .columns, [_, "owner"] =>
    .ok [⟨[.int 1, .text "id", .text "integer", .bool true, .null, .bool true,
      .null]⟩]
  | .columns, _ =>
    .ok [⟨[.int 1, .text "owner_id", .text "integer", .bool true, .null,
      .bool false, .null]⟩]
  | .foreignKeys, [_, "deed"] =>
    .ok [⟨[.text "holder", .text "owner_id", .text "owner", .text "id", .null,
      .null]⟩]
  | .foreignKeys, [_, "lease"] =>
    .ok [
      ⟨[.text "holder", .text "owner_id", .text "owner", .text "id", .null,
        .null]⟩,
      ⟨[.text "holder_0", .text "owner_id", .text "owner", .text "id", .null,
        .null]⟩]
  | _, _ => .ok []

/-- A session with the catalog of a registry that draws every number twice. -/
def registry : Surroundings where
  connection := .scripted registryReplies fun _ => .ok ()
  random := ⟨fun draws => (draws / 2).toUInt32, 2⟩

def countUp : RandomSource :=
  ⟨fun draws => (draws + 7).toUInt32, 1⟩

theorem registersForeignKeys_registry :
    ∃ graph, ((new .postgresql .standard).build registry).1.outcome =
        .ok graph ∧
      graph.foreignKeys.entries = [("holder_0", ⟨"deed", 0⟩),
        ("holder_0_1", ⟨"lease", 1⟩), ("holder_1", ⟨"lease", 0⟩)] ∧
      graph.RegistersForeignKeys ∧
      ((new .postgresql .standard).build registry).1.SameButKeys
        ((new .postgresql .standard).build
          { registry with random := countUp }).1 := by
  obtain ⟨graph, built, entries⟩ := exists_ok_of_view
    (show (((new .postgresql .standard).build registry).1.outcome.toOption.map
        fun graph => graph.foreignKeys.entries) =
      some [("holder_0", ⟨"deed", 0⟩), ("holder_0_1", ⟨"lease", 1⟩),
        ("holder_1", ⟨"lease", 0⟩)] by decide)
  obtain ⟨_, alsoBuilt, _⟩ := exists_ok_of_view
    (show (((new .postgresql .standard).build
        { registry with random := countUp }).1.outcome.toOption.map
        fun graph => graph.foreignKeys.keys) =
      some ["holder_0_9", "holder_7", "holder_8"] by decide)
  obtain ⟨registers, sameButKeys⟩ :=
    registersForeignKeys_of_build (new .postgresql .standard) registry
  refine ⟨graph, built, entries, registers graph built, ?_⟩
  apply sameButKeys countUp
  · rw [built]
    exact .ok graph
  · rw [alsoBuilt]
    exact .ok _

end GraphBuilder

end SchemaAtlas
