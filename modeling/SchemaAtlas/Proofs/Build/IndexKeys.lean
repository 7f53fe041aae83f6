import SchemaAtlas.Proofs.Build.CrossReference

/-!
# Keys of indexes

The map of the indexes of a schema is filled in the order of the relations and
of the indexes in each of them, and an index takes the place of an earlier one
with the same key.  An index is therefore found under its own key or not at all,
and every index is found exactly where the keys of a schema are distinct.  The
name of a relation and that of an index are only glued together, so different
pairs can make one key.
-/

namespace SchemaAtlas

open Catalog

namespace Graph

structure HoldsIndex (graph : Graph) (place : Place) (relation : Relation)
    (index : Index) : Prop where
  inGraph : graph.relation? place.relation = some relation
  inRelation : relation.indexes[place.position]? = some index

theorem HoldsIndex.unique {graph : Graph} {place : Place}
    {relation otherRelation : Relation} {index otherIndex : Index}
    (holds : graph.HoldsIndex place relation index)
    (others : graph.HoldsIndex place otherRelation otherIndex) :
    relation = otherRelation ∧ index = otherIndex := by
  have sameRelation := holds.inGraph.symm.trans others.inGraph
  cases sameRelation
  have sameIndex := holds.inRelation.symm.trans others.inRelation
  cases sameIndex
  exact ⟨rfl, rfl⟩

private theorem exists_holdsIndex_of_indexAt? {graph : Graph} {place : Place}
    {index : Index} (found : graph.indexAt? place = some index) :
    ∃ relation, graph.HoldsIndex place relation index := by
  obtain ⟨relation, inGraph, inRelation⟩ := Option.bind_eq_some_iff.mp found
  exact ⟨relation, inGraph, inRelation⟩

/-- Every index of every relation is found under exactly one key. -/
def FindsEveryIndex (graph : Graph) : Prop :=
  ∀ place relation index, graph.HoldsIndex place relation index →
    ∃! key, graph.indexes.find? key = some place

/-- No index that comes after a place has a given key. -/
def LastOfKey (graph : Graph) (place : Place) (key : String) : Prop :=
  ∀ later relation index, graph.HoldsIndex later relation index →
    place.Before later → Build.indexKey relation index ≠ key

/-- Indexes at different places have different keys. -/
def DistinctIndexKeys (graph : Graph) : Prop :=
  ∀ left leftRelation leftIndex right rightRelation rightIndex,
    graph.HoldsIndex left leftRelation leftIndex →
    graph.HoldsIndex right rightRelation rightIndex →
    Build.indexKey leftRelation leftIndex =
      Build.indexKey rightRelation rightIndex →
    left = right

/-- The map of indexes finds the last index of each key. -/
def FindsLastOfKey (graph : Graph) : Prop :=
  ∀ key place, graph.indexes.find? key = some place ↔
    (∃ relation index, graph.HoldsIndex place relation index ∧
      Build.indexKey relation index = key) ∧ graph.LastOfKey place key

namespace FindsLastOfKey

variable {graph : Graph} (findsLast : graph.FindsLastOfKey) {place : Place}
  {relation : Relation} {index : Index}

include findsLast

/-- An index is found under its own key only, as long as no later index has
it. -/
theorem find?_iff (holds : graph.HoldsIndex place relation index)
    {key : String} :
    graph.indexes.find? key = some place ↔
      key = Build.indexKey relation index ∧ graph.LastOfKey place key := by
  rw [findsLast key place]
  constructor
  · rintro ⟨⟨sameRelation, sameIndex, alsoHolds, rfl⟩, last⟩
    obtain ⟨rfl, rfl⟩ := holds.unique alsoHolds
    exact ⟨rfl, last⟩
  · rintro ⟨rfl, last⟩
    exact ⟨⟨relation, index, holds, rfl⟩, last⟩

theorem existsUnique_iff (holds : graph.HoldsIndex place relation index) :
    (∃! key, graph.indexes.find? key = some place) ↔
      graph.LastOfKey place (Build.indexKey relation index) := by
  constructor
  · rintro ⟨key, found, _⟩
    obtain ⟨rfl, last⟩ := (findsLast.find?_iff holds).mp found
    exact last
  · intro last
    refine ⟨Build.indexKey relation index, ?_, ?_⟩
    · exact (findsLast.find?_iff holds).mpr ⟨rfl, last⟩
    · intro key found
      exact ((findsLast.find?_iff holds).mp found).1

theorem findsEveryIndex_iff :
    graph.FindsEveryIndex ↔ graph.DistinctIndexKeys := by
  constructor
  · intro findsEvery left leftRelation leftIndex right rightRelation rightIndex
      holdsLeft holdsRight sameKey
    have lastLeft := (findsLast.existsUnique_iff holdsLeft).mp
      (findsEvery _ _ _ holdsLeft)
    have lastRight := (findsLast.existsUnique_iff holdsRight).mp
      (findsEvery _ _ _ holdsRight)
    by_contra different
    rcases Place.before_or_before_of_ne different with before | before
    · exact lastLeft _ _ _ holdsRight before sameKey.symm
    · exact lastRight _ _ _ holdsLeft before sameKey
  · intro distinct place relation index holds
    apply (findsLast.existsUnique_iff holds).mpr
    intro later laterRelation laterIndex holdsLater before sameKey
    have samePlace := distinct _ _ _ _ _ _ holdsLater holds sameKey
    subst samePlace
    exact before.asymm before

end FindsLastOfKey

end Graph

namespace Build.Course

variable {adapter : Adapter} {options : Options} {surroundings : Surroundings}
  (course : Course adapter options surroundings)

theorem holdsIndex_iff {place : Place} {key : String} :
    (∃ relation index, course.graph.HoldsIndex place relation index ∧
      indexKey relation index = key) ↔
      (key, place) ∈ indexPlaces course.ownedIndexes := by
  constructor
  · rintro ⟨relation, index, ⟨found, there⟩, rfl⟩
    obtain ⟨own, isOwned, named, rfl⟩ := course.relation?_graph_iff.mp found
    exact mem_places_iff.mpr ⟨own, isOwned, index, there, rfl, named.symm⟩
  · intro membership
    obtain ⟨own, isOwned, index, there, sameKey, owner⟩ :=
      mem_places_iff.mp membership
    refine ⟨{ own.relation with indexes := own.indexes }, index, ⟨?_, there⟩,
      sameKey.symm⟩
    exact course.relation?_graph_iff.mpr ⟨own, isOwned, owner.symm, rfl⟩

theorem ordered_indexPlaces :
    ((indexPlaces course.ownedIndexes).map Prod.snd).Pairwise Place.Before :=
  ordered_places
    (ordered_owners course.every_relationsWithKeys course.owners_ownedIndexes)

theorem findsLastOfKey_graph : course.graph.FindsLastOfKey := by
  intro key place
  show (indexMap course.ownedIndexes).find? key = some place ↔ _
  rw [indexMap, NameMap.find?_foldl_insert, NameMap.find?_empty,
    Option.or_none, NameMap.lookup_reverse_iff course.ordered_indexPlaces
      Place.Before.asymm, course.holdsIndex_iff]
  refine and_congr_right fun _ => ?_
  constructor
  · intro last later relation index holds before
    exact last _ (course.holdsIndex_iff.mp ⟨relation, index, holds, rfl⟩) before
  · rintro last ⟨otherKey, later⟩ membership before
    obtain ⟨relation, index, holds, rfl⟩ := course.holdsIndex_iff.mpr membership
    exact last later relation index holds before

end Build.Course

namespace GraphBuilder

/-- In the graph of a successful build an index is found under exactly one key
if no later index has its key, and every index is found if the keys of the
schema are distinct; the map of indexes loses the others. -/
theorem findsEveryIndex_iff_of_build {builder : GraphBuilder}
    {surroundings : Surroundings} {graph : Graph}
    (built : (builder.build surroundings).1.outcome = .ok graph) :
    (graph.FindsEveryIndex ↔ graph.DistinctIndexKeys) ∧
      ∀ place relation index, graph.HoldsIndex place relation index →
        ((∃! key, graph.indexes.find? key = some place) ↔
          graph.LastOfKey place (Build.indexKey relation index)) := by
  obtain ⟨course, rfl⟩ := Build.exists_course_of_build built
  have findsLast := course.findsLastOfKey_graph
  refine ⟨findsLast.findsEveryIndex_iff, ?_⟩
  intro place relation index holds
  exact findsLast.existsUnique_iff holds

theorem lastOfKey_library :
    ∃ graph relation index,
      ((new .sqlite .standard).build library).1.outcome = .ok graph ∧
      graph.HoldsIndex ⟨"book", 0⟩ relation index ∧
      graph.LastOfKey ⟨"book", 0⟩ (Build.indexKey relation index) := by
  obtain ⟨graph, built, seen⟩ := exists_ok_of_view
    (show (((new .sqlite .standard).build library).1.outcome.toOption.map
        fun graph => (graph.indexes.entries,
          (graph.indexAt? ⟨"book", 0⟩).map Index.name)) =
      some ([("author_id_pkey", ⟨"author", 0⟩),
        ("book_book_author", ⟨"book", 0⟩), ("book_title_pkey", ⟨"book", 1⟩)],
        some "book_author") by decide)
  rw [Prod.mk.injEq, Option.map_eq_some_iff] at seen
  obtain ⟨entries, index, there, _⟩ := seen
  obtain ⟨relation, holds⟩ := Graph.exists_holdsIndex_of_indexAt? there
  refine ⟨graph, relation, index, built, holds, ?_⟩
  apply ((findsEveryIndex_iff_of_build built).2 _ _ _ holds).mp
  refine ⟨"book_book_author", ?_, ?_⟩
  · exact NameMap.mem_entries_iff.mp (by simp [entries])
  · intro key found
    have entry := NameMap.mem_entries_iff.mpr found
    simpa [entries] using entry

/-- The catalog of a shop: the index `item_id` of `order` and the index `id` of
`order_item` make one key. -/
def shopReplies (query : CatalogQuery) (parameters : List String) :
    Except DriverError (List Row) :=
  match query.topic, parameters with
  | .tables, ["table"] => .ok [⟨[.text "order"]⟩, ⟨[.text "order_item"]⟩]
  | .columns, _ =>
    .ok [⟨[.int 1, .text "id", .text "integer", .bool true, .null,
      .bool false]⟩]
  | .indexes, ["order"] => .ok [⟨[.text "item_id", .bool true, .text "c"]⟩]
  | .indexes, ["order_item"] => .ok [⟨[.text "id", .bool true, .text "c"]⟩]
  | .indexColumns, _ => .ok [⟨[.int 0, .int 0, .text "id"]⟩]
  | .indexOrder, _ => .ok [⟨[.text "0"]⟩]
  | _, _ => .ok []

def shop : Surroundings where
  connection := .scripted shopReplies fun _ => .ok ()
  random := ⟨fun _ => 0, 1⟩

/-- The index of `order` is in the graph of the shop, and no key finds it. -/
theorem loses_index_shop :
    ∃ graph, ((new .sqlite .standard).build shop).1.outcome = .ok graph ∧
      ¬ graph.FindsEveryIndex := by
  obtain ⟨graph, built, seen⟩ := exists_ok_of_view
    (show (((new .sqlite .standard).build shop).1.outcome.toOption.map
        fun graph => (graph.indexes.entries,
          (graph.indexAt? ⟨"order", 0⟩).map Index.name)) =
      some ([("order_item_id", ⟨"order_item", 0⟩)], some "item_id") by decide)
  rw [Prod.mk.injEq, Option.map_eq_some_iff] at seen
  obtain ⟨entries, index, there, _⟩ := seen
  obtain ⟨relation, holds⟩ := Graph.exists_holdsIndex_of_indexAt? there
  refine ⟨graph, built, fun findsEvery => ?_⟩
  obtain ⟨key, found, _⟩ := findsEvery _ _ _ holds
  have entry := NameMap.mem_entries_iff.mpr found
  simp [entries] at entry

end GraphBuilder

end SchemaAtlas
