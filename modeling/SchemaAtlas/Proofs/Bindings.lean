import SchemaAtlas.NameMap
import Mathlib.Data.List.Forall2
import Mathlib.Data.List.Nodup

/-!
# Bindings of maps from names

The names of a map are distinct, so an entry stands in its list exactly where a
look-up finds it.  A map that is filled from a list of bindings finds the last
binding of a name.  Maps are compared by what look-ups find, and then their
entries are alike one by one.
-/

namespace SchemaAtlas.NameMap

variable {α β γ δ : Type}

theorem lookup_eq_some_iff_mem {bindings : List (String × α)}
    (distinct : (bindings.map Prod.fst).Nodup) {name : String} {value : α} :
    bindings.lookup name = some value ↔ (name, value) ∈ bindings := by
  induction bindings with
  | nil => simp
  | cons head rest ih =>
      obtain ⟨first, bound⟩ := head
      rw [List.map_cons, List.nodup_cons] at distinct
      rw [lookup_entry_cons, List.mem_cons]
      by_cases atFirst : name = first
      · subst atFirst
        have notLater : (name, value) ∉ rest := fun later =>
          distinct.1 (List.mem_map.mpr ⟨_, later, rfl⟩)
        simp [notLater, eq_comm]
      · rw [if_neg atFirst, ih distinct.2]
        simp [atFirst]

/-- Where the items of a list have distinct names, a look-up of the name of an
item finds its content. -/
theorem lookup_map_of_mem {items : List γ} {name : γ → String}
    {content : γ → α} (distinct : (items.map name).Nodup) {item : γ}
    (membership : item ∈ items) :
    (items.map fun item => (name item, content item)).lookup (name item) =
      some (content item) := by
  have sameNames :
      (items.map fun item => (name item, content item)).map Prod.fst =
        items.map name := by
    simp [List.map_map, Function.comp_def]
  rw [lookup_eq_some_iff_mem (by rw [sameNames]; exact distinct)]
  exact List.mem_map.mpr ⟨item, membership, rfl⟩

theorem nodup_keys (map : NameMap α) : map.keys.Nodup := by
  apply map.sorted.imp
  intro left right less same
  subst same
  exact String.lt_irrefl left less

theorem mem_entries_iff {map : NameMap α} {name : String} {value : α} :
    (name, value) ∈ map.entries ↔ map.find? name = some value :=
  (lookup_eq_some_iff_mem map.nodup_keys).symm

theorem mem_values_iff {map : NameMap α} {value : α} :
    value ∈ map.values ↔ ∃ name, map.find? name = some value := by
  simp only [values, List.mem_map, Prod.exists, exists_eq_right,
    mem_entries_iff]

/-- Where no value occurs twice, every value is found under one name. -/
theorem existsUnique_of_mem_values {map : NameMap α}
    (distinct : map.values.Nodup) {value : α}
    (membership : value ∈ map.values) :
    ∃! name, map.find? name = some value := by
  obtain ⟨name, found⟩ := mem_values_iff.mp membership
  refine ⟨name, found, ?_⟩
  intro other alsoFound
  have sameEntry := List.inj_on_of_nodup_map distinct
    (mem_entries_iff.mpr alsoFound) (mem_entries_iff.mpr found) rfl
  exact congrArg Prod.fst sameEntry

theorem find?_map (source : NameMap α) (f : String → α → β) (name : String) :
    (source.map f).find? name = (source.find? name).map (f name) := by
  show (source.entries.map fun entry => (entry.1, f entry.1 entry.2)).lookup
      name = (source.entries.lookup name).map (f name)
  induction source.entries with
  | nil => rfl
  | cons head rest ih =>
      obtain ⟨first, value⟩ := head
      rw [List.map_cons, lookup_entry_cons, lookup_entry_cons, ih]
      by_cases atFirst : name = first
      · simp [atFirst]
      · simp [atFirst]

private theorem perm_insertEntry {name : String} {value : α}
    {entries : List (String × α)} (unused : entries.lookup name = none) :
    (insertEntry name value entries).Perm ((name, value) :: entries) := by
  induction entries with
  | nil => exact .refl _
  | cons head rest ih =>
      obtain ⟨first, old⟩ := head
      rw [lookup_entry_cons] at unused
      have different : name ≠ first := by
        intro same
        rw [if_pos same] at unused
        cases unused
      rw [if_neg different] at unused
      rw [insertEntry]
      split
      · exact .refl _
      · exact ((ih unused).cons _).trans (.swap _ _ _)

/-- An insertion under an unused name adds a value and loses none. -/
theorem perm_values_insert {map : NameMap α} {name : String} {value : α}
    (unused : map.contains name = false) :
    (map.insert name value).values.Perm (value :: map.values) := by
  have absent : map.find? name = none := by simpa [contains] using unused
  exact (perm_insertEntry absent).map Prod.snd

/-- A map to which bindings are added one after the other finds the last of them
that is of the name. -/
theorem find?_foldl_insert (bindings : List (String × α)) (map : NameMap α)
    (name : String) :
    (bindings.foldl (fun map (key, value) => map.insert key value) map).find?
        name =
      (bindings.reverse.lookup name).or (map.find? name) := by
  induction bindings generalizing map with
  | nil => simp
  | cons head rest ih =>
      obtain ⟨first, value⟩ := head
      rw [List.foldl_cons, ih, find?_insert, List.reverse_cons,
        List.lookup_append, Option.or_assoc, lookup_entry_cons]
      by_cases atFirst : name = first
      · simp [atFirst]
      · simp [atFirst]

private theorem lookup_reverse_of_nodup {bindings : List (String × α)}
    (distinct : (bindings.map Prod.fst).Nodup) (name : String) :
    bindings.reverse.lookup name = bindings.lookup name := by
  apply Option.ext
  intro value
  rw [lookup_eq_some_iff_mem, lookup_eq_some_iff_mem distinct, List.mem_reverse]
  rwa [List.map_reverse, List.nodup_reverse]

/-- A map to which the entries of another are added finds what the other has,
and elsewhere what it had. -/
theorem find?_foldl_entries (source map : NameMap α) (name : String) :
    (source.entries.foldl (fun map (key, value) => map.insert key value)
        map).find? name = (source.find? name).or (map.find? name) := by
  rw [find?_foldl_insert, lookup_reverse_of_nodup source.nodup_keys]
  rfl

theorem lookup_map_name (name : γ → String) (items : List γ) (key : String) :
    (items.map fun item => (name item, item)).lookup key =
      items.find? fun item => name item == key := by
  induction items with
  | nil => rfl
  | cons item rest ih =>
      rw [List.map_cons, lookup_entry_cons, ih, List.find?_cons]
      by_cases atFirst : key = name item
      · simp [atFirst]
      · have different : (name item == key) = false := by
          simp [Ne.symm atFirst]
        rw [if_neg atFirst, different]

/-- A look-up among bindings in order finds a value exactly where it is bound to
the name and no value after it is. -/
theorem lookup_reverse_iff {before : α → α → Prop}
    {bindings : List (String × α)}
    (ordered : (bindings.map Prod.snd).Pairwise before)
    (asymmetric : ∀ {left right}, before left right → ¬ before right left)
    {name : String} {value : α} :
    bindings.reverse.lookup name = some value ↔
      (name, value) ∈ bindings ∧
        ∀ binding ∈ bindings, before value binding.2 → binding.1 ≠ name := by
  induction bindings with
  | nil => simp
  | cons head rest ih =>
      obtain ⟨first, bound⟩ := head
      rw [List.map_cons, List.pairwise_cons] at ordered
      rw [List.reverse_cons, List.lookup_append, Option.or_eq_some_iff,
        ih ordered.2, List.forall_mem_cons, List.mem_cons, Prod.mk.injEq,
        lookup_entry_cons]
      constructor
      · rintro (⟨later, last⟩ | ⟨notLater, found⟩)
        · refine ⟨.inr later, ?_, last⟩
          intro isBefore
          have after := ordered.1 value (List.mem_map.mpr ⟨_, later, rfl⟩)
          exact absurd isBefore (asymmetric after)
        · by_cases atFirst : name = first
          · rw [if_pos atFirst, Option.some.injEq] at found
            subst found atFirst
            refine ⟨.inl ⟨rfl, rfl⟩, fun isBefore => ?_, ?_⟩
            · exact absurd isBefore (asymmetric isBefore)
            · intro binding later _ same
              have different := List.lookup_eq_none_iff.mp notLater binding
                (List.mem_reverse.mpr later)
              simp [same] at different
          · rw [if_neg atFirst] at found
            cases found
      · rintro ⟨⟨rfl, rfl⟩ | later, _, last⟩
        · right
          rw [if_pos rfl, List.lookup_eq_none_iff]
          refine ⟨?_, rfl⟩
          intro binding membership
          have later := List.mem_reverse.mp membership
          have different := last binding later
            (ordered.1 _ (List.mem_map.mpr ⟨binding, later, rfl⟩))
          simpa using Ne.symm different
        · exact .inl ⟨later, last⟩

theorem mem_keys_iff {map : NameMap α} {name : String} :
    name ∈ map.keys ↔ (map.find? name).isSome = true := by
  rw [Option.isSome_iff_exists, keys, List.mem_map]
  constructor
  · rintro ⟨⟨key, value⟩, membership, rfl⟩
    exact ⟨value, mem_entries_iff.mp membership⟩
  · rintro ⟨value, found⟩
    exact ⟨(name, value), mem_entries_iff.mpr found, rfl⟩

/-- Two maps have the same names, and what they find for a name is related. -/
def Alike (related : α → β → Prop) (left : NameMap α) (right : NameMap β) :
    Prop :=
  ∀ name, Option.Rel related (left.find? name) (right.find? name)

namespace Alike

variable {related : α → β → Prop} {left : NameMap α} {right : NameMap β}

theorem empty (related : α → β → Prop) :
    Alike related (NameMap.empty : NameMap α) (NameMap.empty : NameMap β) :=
  fun _ => .none

theorem refl {related : α → α → Prop} (same : ∀ value, related value value)
    (map : NameMap α) : map.Alike related map := by
  intro name
  cases map.find? name with
  | none => exact .none
  | some value => exact .some (same value)

theorem mono {wider : α → β → Prop} (alike : left.Alike related right)
    (weaken : ∀ value other, related value other → wider value other) :
    left.Alike wider right := by
  intro name
  have atName := alike name
  generalize left.find? name = found, right.find? name = other at atName ⊢
  cases atName with
  | some areRelated => exact .some (weaken _ _ areRelated)
  | none => exact .none

theorem insert (alike : left.Alike related right) (name : String) {value : α}
    {other : β} (areRelated : related value other) :
    (left.insert name value).Alike related (right.insert name other) := by
  intro key
  rw [find?_insert, find?_insert]
  by_cases same : key = name
  · rw [if_pos same, if_pos same]
    exact .some areRelated
  · rw [if_neg same, if_neg same]
    exact alike key

theorem isSome_find? (alike : left.Alike related right) (name : String) :
    (left.find? name).isSome = (right.find? name).isSome := by
  have atName := alike name
  generalize left.find? name = found, right.find? name = other at atName ⊢
  cases atName <;> rfl

theorem map {result : γ → δ → Prop} {f : String → α → γ} {g : String → β → δ}
    (alike : left.Alike related right)
    (each : ∀ name value other, related value other →
      result (f name value) (g name other)) :
    (left.map f).Alike result (right.map g) := by
  intro name
  have atName := alike name
  rw [find?_map, find?_map]
  generalize left.find? name = found, right.find? name = other at atName ⊢
  cases atName with
  | some areRelated => exact .some (each _ _ _ areRelated)
  | none => exact .none

theorem keys (alike : left.Alike related right) : left.keys = right.keys := by
  have sameNames := (List.perm_ext_iff_of_nodup left.nodup_keys
    right.nodup_keys).mpr fun name => by
      rw [mem_keys_iff, mem_keys_iff, alike.isSome_find?]
  apply sameNames.eq_of_pairwise _ left.sorted right.sorted
  intro name other _ _ less greater
  exact absurd greater (String.lt_asymm less)

theorem entries (alike : left.Alike related right) :
    List.Forall₂ (fun entry other =>
        entry.1 = other.1 ∧ related entry.2 other.2) left.entries
      right.entries := by
  have sameNames : left.entries.map Prod.fst = right.entries.map Prod.fst :=
    alike.keys
  rw [List.forall₂_iff_get]
  have sameLength := congrArg List.length sameNames
  rw [List.length_map, List.length_map] at sameLength
  refine ⟨sameLength, ?_⟩
  intro position inLeft inRight
  have sameName : left.entries[position].1 = right.entries[position].1 := by
    have sameAt := congrArg (·[position]?) sameNames
    simpa [inLeft, inRight] using sameAt
  refine ⟨sameName, ?_⟩
  have held : left.find? left.entries[position].1 =
      some left.entries[position].2 :=
    mem_entries_iff.mp (List.getElem_mem inLeft)
  have otherHeld : right.find? right.entries[position].1 =
      some right.entries[position].2 :=
    mem_entries_iff.mp (List.getElem_mem inRight)
  have atName := alike left.entries[position].1
  rw [held, sameName, otherHeld] at atName
  cases atName with
  | some areRelated => exact areRelated

theorem values (alike : left.Alike related right) :
    List.Forall₂ related left.values right.values := by
  rw [NameMap.values, NameMap.values, List.forall₂_map_left_iff,
    List.forall₂_map_right_iff]
  exact alike.entries.imp fun _ _ same => same.2

end Alike

theorem eq_of_alike {left right : NameMap α} (alike : left.Alike Eq right) :
    left = right := by
  have sameEntries : left.entries = right.entries := by
    have each := alike.entries.imp fun _ _ same => Prod.ext same.1 same.2
    rwa [List.forall₂_eq_eq_eq] at each
  cases left
  cases right
  cases sameEntries
  rfl

theorem eq_of_find?_eq {left right : NameMap α}
    (same : ∀ name, left.find? name = right.find? name) : left = right := by
  apply eq_of_alike
  intro name
  rw [same]
  cases right.find? name with
  | none => exact .none
  | some value => exact .some rfl

end SchemaAtlas.NameMap
