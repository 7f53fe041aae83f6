import SchemaAtlas.Proofs.Build.Relations
import SchemaAtlas.Proofs.Exchange.Sessions

/-!
# Places of what relations own

The foreign keys and the indexes of a schema are found by place: by the relation
that owns them and by their position in it.  The list of all places goes through
the relations in the order of their names and through the positions in each, so
every place stands in it once.  The places of foreign keys are registered under
keys that are searched for by drawing numbers.
-/

namespace SchemaAtlas

/-- A place comes before another in the order of the relations and of the
positions in them. -/
def Place.Before (left right : Place) : Prop :=
  left.relation < right.relation ∨
    left.relation = right.relation ∧ left.position < right.position

namespace Place

theorem Before.asymm {left right : Place} (before : left.Before right) :
    ¬ right.Before left := by
  rintro (otherRelation | ⟨sameRelation, otherPosition⟩)
  · rcases before with relation | ⟨sameRelation, _⟩
    · exact String.lt_asymm relation otherRelation
    · exact String.lt_irrefl _ (sameRelation ▸ otherRelation)
  · rcases before with relation | ⟨_, position⟩
    · exact String.lt_irrefl _ (sameRelation ▸ relation)
    · exact Nat.lt_asymm position otherPosition

theorem Before.ne {left right : Place} (before : left.Before right) :
    left ≠ right := by
  rintro rfl
  exact before.asymm before

theorem before_or_before_of_ne {left right : Place} (different : left ≠ right) :
    left.Before right ∨ right.Before left := by
  obtain ⟨leftName, leftPosition⟩ := left
  obtain ⟨rightName, rightPosition⟩ := right
  by_cases less : leftName < rightName
  · exact .inl (.inl less)
  by_cases sameName : leftName = rightName
  · subst sameName
    have otherPosition : leftPosition ≠ rightPosition := fun same =>
      different (same ▸ rfl)
    rcases Nat.lt_or_gt_of_ne otherPosition with position | position
    · exact .inl (.inr ⟨rfl, position⟩)
    · exact .inr (.inr ⟨rfl, position⟩)
  · exact .inr (.inl (NameMap.lt_of_not_lt_of_ne less sameName))

end Place

namespace Build

open Recorded Session

/-- A list of places of what relations own holds the positions in what each of
them owns. -/
theorem mem_places_iff {γ β κ : Type} {owned : List γ} {owner : γ → Relation}
    {content : γ → List β} {key : γ → β → κ} {named : κ × Place} :
    (named ∈ owned.flatMap fun own =>
      (content own).zipIdx.map fun (item, position) =>
        (key own item, ⟨(owner own).nativeName, position⟩)) ↔
      ∃ own ∈ owned, ∃ item,
        (content own)[named.2.position]? = some item ∧
        named.1 = key own item ∧ named.2.relation = (owner own).nativeName := by
  rw [List.mem_flatMap]
  refine exists_congr fun own => and_congr_right fun _ => ?_
  rw [List.mem_map]
  constructor
  · rintro ⟨⟨item, position⟩, there, rfl⟩
    exact ⟨item, List.mem_zipIdx_iff_getElem?.mp there, rfl, rfl⟩
  · obtain ⟨label, relation, position⟩ := named
    rintro ⟨item, there, rfl, rfl⟩
    exact ⟨(item, position), List.mem_zipIdx_iff_getElem?.mpr there, rfl⟩

theorem ordered_owners {γ : Type} {relations : NameMap Relation}
    {owned : List γ} {owner : γ → Relation}
    (named : relations.Every fun name relation => relation.nativeName = name)
    (owners : owned.map owner = relations.values) :
    owned.Pairwise fun left right =>
      (owner left).nativeName < (owner right).nativeName := by
  have names : owned.map (fun own => (owner own).nativeName) =
      relations.keys := by
    rw [← map_nativeName_values named, ← owners, List.map_map]
    rfl
  apply List.pairwise_map.mp
  rw [names]
  exact relations.sorted

theorem ordered_places {γ β κ : Type} {owned : List γ} {owner : γ → Relation}
    {content : γ → List β} {key : γ → β → κ}
    (ordered : owned.Pairwise fun left right =>
      (owner left).nativeName < (owner right).nativeName) :
    ((owned.flatMap fun own =>
      (content own).zipIdx.map fun (item, position) =>
        (key own item,
          (⟨(owner own).nativeName, position⟩ : Place))).map
      Prod.snd).Pairwise Place.Before := by
  rw [List.pairwise_map, List.pairwise_flatMap]
  constructor
  · intro own _
    rw [List.pairwise_map]
    apply (List.pairwise_map.mp (increasing_positions (content own))).imp
    intro left right less
    exact .inr ⟨rfl, less⟩
  · apply ordered.imp
    intro left right less earlier isEarlier later isLater
    obtain ⟨_, _, rfl⟩ := List.mem_map.mp isEarlier
    obtain ⟨_, _, rfl⟩ := List.mem_map.mp isLater
    exact .inl less

/-- A key that is found for a name is unused, and is the name with a number. -/
theorem of_returns_unusedKey {surroundings : Surroundings}
    {map : NameMap Place} {name key : String} {patience : Nat}
    (returns : (unusedKey map name patience).Returns surroundings key) :
    map.contains key = false ∧
      ∃ number : UInt32, key = name ++ "_" ++ Text.decimal number.toNat := by
  induction patience with
  | zero =>
      obtain ⟨before, run⟩ := returns
      cases run
  | succ patience ih =>
      rw [unusedKey] at returns
      obtain ⟨number, _, returns⟩ := returns_of_bind returns
      dsimp only at returns
      split at returns
      · exact ih returns
      next unused =>
        rw [eq_of_returns_pure returns]
        exact ⟨Bool.eq_false_iff.mpr unused, number, rfl⟩

/-- What holds of the given places under their names with a number holds of
every place that is registered. -/
theorem every_of_returns_registerPlaces {surroundings : Surroundings}
    {map registered : NameMap Place} {places : List (String × Place)}
    {holds : String → Place → Prop}
    (returns : (registerPlaces map places).Returns surroundings registered)
    (every : map.Every holds)
    (each : ∀ named ∈ places, ∀ number : UInt32,
      holds (named.1 ++ "_" ++ Text.decimal number.toNat) named.2) :
    registered.Every holds := by
  induction places generalizing map with
  | nil =>
      rw [registerPlaces] at returns
      rw [eq_of_returns_pure returns]
      exact every
  | cons named rest ih =>
      obtain ⟨name, place⟩ := named
      rw [registerPlaces] at returns
      obtain ⟨patience, _, returns⟩ := returns_of_bind returns
      obtain ⟨key, keyFound, returns⟩ := returns_of_bind returns
      obtain ⟨_, number, rfl⟩ := of_returns_unusedKey keyFound
      exact ih returns
        (every.insert (each (name, place) List.mem_cons_self number))
        (fun other later => each other (List.mem_cons_of_mem _ later))

theorem perm_of_returns_registerPlaces {surroundings : Surroundings}
    {map registered : NameMap Place} {places : List (String × Place)}
    (returns : (registerPlaces map places).Returns surroundings registered) :
    registered.values.Perm (places.map Prod.snd ++ map.values) := by
  induction places generalizing map with
  | nil =>
      rw [registerPlaces] at returns
      rw [eq_of_returns_pure returns]
      exact .refl _
  | cons named rest ih =>
      obtain ⟨name, place⟩ := named
      rw [registerPlaces] at returns
      obtain ⟨patience, _, returns⟩ := returns_of_bind returns
      obtain ⟨key, keyFound, returns⟩ := returns_of_bind returns
      have unused := (of_returns_unusedKey keyFound).1
      calc registered.values
        _ |>.Perm (rest.map Prod.snd ++ (map.insert key place).values) :=
          ih returns
        _ |>.Perm (rest.map Prod.snd ++ place :: map.values) :=
          (NameMap.perm_values_insert unused).append_left _
        _ |>.Perm (place :: (rest.map Prod.snd ++ map.values)) :=
          List.perm_middle

theorem searches_unusedKey (map : NameMap Place) (name : String)
    (patience : Nat) : (unusedKey map name patience).Searches := by
  induction patience with
  | zero => exact .givenUp name
  | succ patience ih =>
      rw [unusedKey]
      apply Searches.draw.bind
      intro number
      dsimp only
      split
      · exact ih
      · exact .pure _

theorem searches_registerPlaces (map : NameMap Place)
    (places : List (String × Place)) :
    (registerPlaces map places).Searches := by
  induction places generalizing map with
  | nil => exact .pure map
  | cons named rest ih =>
      obtain ⟨name, place⟩ := named
      rw [registerPlaces]
      apply Searches.patience.bind
      intro patience
      apply (searches_unusedKey map name patience).bind
      intro key
      exact ih (map.insert key place)

end Build

end SchemaAtlas
