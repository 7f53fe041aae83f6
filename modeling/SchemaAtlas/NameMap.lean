/-!
# Maps from names

A map from names is the list of its entries in strictly increasing order of the
names, by code points.  Two maps with the same bindings are therefore equal.
The main statements describe each operation by what a look-up finds afterwards.
-/

namespace SchemaAtlas

structure NameMap (α : Type) where
  entries : List (String × α)
  sorted : (entries.map Prod.fst).Pairwise (· < ·)

namespace NameMap

def empty : NameMap α where
  entries := []
  sorted := .nil

instance : Inhabited (NameMap α) := ⟨empty⟩

/-- Put an entry into a list that is sorted by name, in the place of an entry of
the same name. -/
def insertEntry (name : String) (value : α) :
    List (String × α) → List (String × α)
  | [] => [(name, value)]
  | (key, old) :: rest =>
    if name < key then (name, value) :: (key, old) :: rest
    else if name = key then (name, value) :: rest
    else (key, old) :: insertEntry name value rest

theorem lt_of_not_lt_of_ne {left right : String} (notLess : ¬ left < right)
    (different : left ≠ right) : right < left :=
  String.not_le.mp fun atMost =>
    different (String.le_antisymm atMost (String.not_lt.mp notLess))

theorem mem_keys_insertEntry {name : String} {value : α}
    {entries : List (String × α)} {key : String} :
    key ∈ (insertEntry name value entries).map Prod.fst ↔
      key = name ∨ key ∈ entries.map Prod.fst := by
  induction entries with
  | nil => simp [insertEntry]
  | cons head rest ih =>
      obtain ⟨first, old⟩ := head
      rw [insertEntry]
      split
      · simp
      · split
        next same => simp [same]
        next =>
          rw [List.map_cons, List.mem_cons, ih, List.map_cons, List.mem_cons]
          constructor <;> rintro (h | h | h) <;> simp [h]

theorem sorted_insertEntry {name : String} {value : α}
    {entries : List (String × α)}
    (sorted : (entries.map Prod.fst).Pairwise (· < ·)) :
    ((insertEntry name value entries).map Prod.fst).Pairwise (· < ·) := by
  induction entries with
  | nil => simp [insertEntry]
  | cons head rest ih =>
      obtain ⟨first, old⟩ := head
      rw [List.map_cons, List.pairwise_cons] at sorted
      rw [insertEntry]
      split
      next less =>
        rw [List.map_cons, List.map_cons, List.pairwise_cons,
          List.pairwise_cons]
        refine ⟨?_, sorted⟩
        intro key membership
        rcases List.mem_cons.mp membership with rfl | later
        · exact less
        · exact String.lt_trans less (sorted.1 key later)
      next notLess =>
        split
        next same =>
          rw [List.map_cons, List.pairwise_cons, same]
          exact sorted
        next different =>
          rw [List.map_cons, List.pairwise_cons]
          refine ⟨?_, ih sorted.2⟩
          intro key membership
          rcases mem_keys_insertEntry.mp membership with rfl | later
          · exact lt_of_not_lt_of_ne notLess different
          · exact sorted.1 key later

/-- The map with one more entry, in the place of one of the same name. -/
def insert (map : NameMap α) (name : String) (value : α) : NameMap α where
  entries := insertEntry name value map.entries
  sorted := sorted_insertEntry map.sorted

def find? (map : NameMap α) (name : String) : Option α :=
  map.entries.lookup name

def contains (map : NameMap α) (name : String) : Bool :=
  (map.find? name).isSome

/-- The names, in order. -/
def keys (map : NameMap α) : List String :=
  map.entries.map Prod.fst

/-- The values, in the order of their names. -/
def values (map : NameMap α) : List α :=
  map.entries.map Prod.snd

/-- The map with every value replaced by a function of its name and itself. -/
def map (source : NameMap α) (f : String → α → β) : NameMap β where
  entries := source.entries.map fun (name, value) => (name, f name value)
  sorted := by
    have sameNames :
        (source.entries.map fun (name, value) => (name, f name value)).map
            Prod.fst =
          source.entries.map Prod.fst := by
      simp [List.map_map, Function.comp_def]
    rw [sameNames]
    exact source.sorted

@[simp] theorem find?_empty (name : String) :
    (empty : NameMap α).find? name = none := rfl

/-- A look-up in a list of entries, one entry at a time. -/
theorem lookup_entry_cons (key name : String) (value : α)
    (rest : List (String × α)) :
    List.lookup key ((name, value) :: rest) =
      if key = name then some value else rest.lookup key := by
  by_cases same : key = name
  · rw [if_pos same, same, List.lookup_cons_self]
  · have unequal : (key == name) = false := by simp [same]
    rw [if_neg same, List.lookup_cons, unequal]

theorem lookup_insertEntry (name : String) (value : α)
    (entries : List (String × α)) (key : String) :
    (insertEntry name value entries).lookup key =
      if key = name then some value else entries.lookup key := by
  induction entries with
  | nil => rw [insertEntry, lookup_entry_cons]
  | cons head rest ih =>
      obtain ⟨first, old⟩ := head
      rw [insertEntry]
      split
      · rw [lookup_entry_cons]
      · split
        next atFirst =>
          subst atFirst
          rw [lookup_entry_cons, lookup_entry_cons]
          split <;> rfl
        next different =>
          rw [lookup_entry_cons, lookup_entry_cons, ih]
          by_cases atFirst : key = first
          · subst atFirst
            rw [if_pos rfl, if_pos rfl, if_neg (Ne.symm different)]
          · rw [if_neg atFirst, if_neg atFirst]

/-- After an insertion the name has the new value, and every other name has what
it had. -/
theorem find?_insert (map : NameMap α) (name : String) (value : α)
    (key : String) :
    (map.insert name value).find? key =
      if key = name then some value else map.find? key :=
  lookup_insertEntry name value map.entries key

theorem keys_map (source : NameMap α) (f : String → α → β) :
    (source.map f).keys = source.keys := by
  simp [keys, map, List.map_map, Function.comp_def]

end NameMap

end SchemaAtlas
