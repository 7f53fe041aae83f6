import SchemaAtlas.Proofs.Build.ListingOrder
import SchemaAtlas.Proofs.Build.Resolution
import SchemaAtlas.Proofs.Text.Numerals

/-!
# Orders of index fields

An index order lists column ids between white space.  `Selects` is how one of
them leads to a field, by way of the first column that is listed with that id,
and `Strays` is why it may not.  An order whose ids all select a field gives the
positions of these fields in its own order; the error about any other order is
that of its first stray.
-/

namespace SchemaAtlas

open Catalog

namespace Relation

/-- A position is that of the first field for a native column. -/
structure FirstAt (relation : Relation) (position : Nat) (column : String) :
    Prop where
  here : relation.ColumnAt position column
  first : ∀ earlier < position, ¬relation.ColumnAt earlier column

theorem positionOf?_eq_some_iff {relation : Relation} {column : String}
    {position : Nat} :
    relation.positionOf? column = some position ↔
      relation.FirstAt position column := by
  rw [positionOf?, List.findIdx?_eq_some_iff_getElem]
  constructor
  · rintro ⟨inRange, same, before⟩
    constructor
    · exact ⟨_, List.getElem?_eq_getElem inRange, eq_of_beq same⟩
    · rintro earlier less ⟨field, there, also⟩
      obtain ⟨_, rfl⟩ := List.getElem?_eq_some_iff.mp there
      exact before earlier less (beq_iff_eq.mpr also)
  · rintro ⟨⟨field, there, same⟩, first⟩
    obtain ⟨inRange, rfl⟩ := List.getElem?_eq_some_iff.mp there
    refine ⟨inRange, beq_iff_eq.mpr same, ?_⟩
    intro earlier less also
    exact first earlier less
      ⟨_, List.getElem?_eq_getElem _, eq_of_beq also⟩

theorem positionOf?_eq_none_iff {relation : Relation} {column : String} :
    relation.positionOf? column = none ↔ ¬relation.HasColumn column := by
  constructor
  · rintro missing hasColumn
    obtain ⟨position, there⟩ := hasColumn_iff.mp hasColumn
    rw [missing] at there
    cases there
  · exact Build.positionOf?_eq_none

end Relation

/-- A column is the first one in a listing that has an id. -/
def Catalog.IndexColumnRecord.FirstIn (column : IndexColumnRecord)
    (columnId : Int) (columns : List IndexColumnRecord) : Prop :=
  column.columnId = columnId ∧ ∃ front rest, columns = front ++ column :: rest ∧
    ∀ earlier ∈ front, earlier.columnId ≠ columnId

theorem Catalog.IndexColumnRecord.find?_eq_some_iff {column : IndexColumnRecord}
    {columnId : Int} {columns : List IndexColumnRecord} :
    (columns.find? fun column => column.columnId == columnId) = some column ↔
      column.FirstIn columnId columns := by
  rw [List.find?_eq_some_iff_append]
  simp [FirstIn]

private theorem Catalog.IndexColumnRecord.firstIn_of_mem
    {columns : List IndexColumnRecord}
    (distinct : (columns.map IndexColumnRecord.columnId).Nodup)
    {column : IndexColumnRecord} (isListed : column ∈ columns) :
    column.FirstIn column.columnId columns := by
  obtain ⟨front, rest, rfl⟩ := List.append_of_mem isListed
  refine ⟨rfl, front, rest, rfl, ?_⟩
  intro earlier isEarlier sameId
  rw [List.map_append, List.nodup_append] at distinct
  obtain ⟨_, _, apart⟩ := distinct
  exact apart _ (List.mem_map_of_mem isEarlier) _
    (List.mem_map_of_mem List.mem_cons_self) sameId

namespace Build

open Text

section Ordinals

variable {relation : Relation} {columns : List IndexColumnRecord}
  {ordinal : List Char}

/-- An ordinal of an index order leads to a field: it is the id of a listed
column, and the field is the first one for that column. -/
def Selects (relation : Relation) (columns : List IndexColumnRecord)
    (ordinal : List Char) (position : Nat) : Prop :=
  ∃ (columnId : Int) (column : IndexColumnRecord),
    Denotes64 ordinal columnId ∧ column.FirstIn columnId columns ∧
      relation.FirstAt position column.name

/-- An ordinal of an index order leads nowhere, with the error that says why. -/
inductive Strays (qualifiedName : String) (relation : Relation) (index : String)
    (columns : List IndexColumnRecord) (ordinal : List Char) :
    Error → Prop where
  | ordinal (noNumeral : ∀ columnId, ¬Denotes64 ordinal columnId) :
      Strays qualifiedName relation index columns ordinal
        (.indexOrdinal qualifiedName index (String.ofList ordinal))
  | column {columnId : Int} (numeral : Denotes64 ordinal columnId)
      (unlisted : ∀ column ∈ columns, column.columnId ≠ columnId) :
      Strays qualifiedName relation index columns ordinal
        (.indexColumn qualifiedName index columnId)
  | field {columnId : Int} {column : IndexColumnRecord}
      (numeral : Denotes64 ordinal columnId)
      (listed : column.FirstIn columnId columns)
      (missing : ¬relation.HasColumn column.name) :
      Strays qualifiedName relation index columns ordinal
        (.indexField qualifiedName index column.name)

theorem fieldOfOrdinal_eq_ok_iff {qualifiedName index : String}
    {position : Nat} :
    fieldOfOrdinal qualifiedName relation index columns ordinal = .ok position ↔
      Selects relation columns ordinal position := by
  simp only [Selects, ← signed64?_eq_some_iff,
    ← IndexColumnRecord.find?_eq_some_iff, ← Relation.positionOf?_eq_some_iff]
  unfold fieldOfOrdinal
  constructor
  · intro found
    split at found
    · cases found
    next columnId numeral =>
      split at found
      · cases found
      next column listed =>
        split at found
        · cases found
        next there =>
          cases found
          exact ⟨columnId, column, numeral, listed, there⟩
  · rintro ⟨columnId, column, numeral, listed, there⟩
    simp only [numeral, listed, there]

theorem fieldOfOrdinal_eq_error_iff {qualifiedName index : String}
    {cause : Error} :
    fieldOfOrdinal qualifiedName relation index columns ordinal = .error cause ↔
      Strays qualifiedName relation index columns ordinal cause := by
  constructor
  · intro failed
    unfold fieldOfOrdinal at failed
    split at failed
    next noNumeral =>
      cases failed
      apply Strays.ordinal
      intro columnId numeral
      rw [signed64?_eq_some_iff.mpr numeral] at noNumeral
      cases noNumeral
    next columnId numeral =>
      rw [signed64?_eq_some_iff] at numeral
      split at failed
      next unlisted =>
        cases failed
        exact .column numeral (by simpa using unlisted)
      next column listed =>
        rw [IndexColumnRecord.find?_eq_some_iff] at listed
        split at failed
        next missing =>
          cases failed
          exact .field numeral listed
            (Relation.positionOf?_eq_none_iff.mp missing)
        · cases failed
  · intro strays
    unfold fieldOfOrdinal
    cases strays with
    | ordinal noNumeral =>
        have unread : signed64? ordinal = none := by
          apply Option.eq_none_iff_forall_ne_some.mpr
          intro columnId read
          exact noNumeral columnId (signed64?_eq_some_iff.mp read)
        simp only [unread]
    | column numeral unlisted =>
        have unfound :
            (columns.find? fun column => column.columnId == _) = none :=
          List.find?_eq_none.mpr (by simpa using unlisted)
        simp only [signed64?_eq_some_iff.mpr numeral, unfound]
    | field numeral listed missing =>
        simp only [signed64?_eq_some_iff.mpr numeral,
          IndexColumnRecord.find?_eq_some_iff.mpr listed,
          Relation.positionOf?_eq_none_iff.mpr missing]

end Ordinals

/-- The fields of an index order with certain ordinals.  They are found if there
are ordinals and all of them select a field; then there is one position for
each, in order.  An order without ordinals is reported as it is, any other one
for the first ordinal that strays. -/
structure OrdersExactly (schema : String) (relation : Relation) (index : String)
    (columns : List IndexColumnRecord) (order : String)
    (ordinals : List (List Char)) : Prop where
  succeeds_iff :
    (∃ positions, orderFields schema relation index columns order =
      .ok positions) ↔
      ordinals ≠ [] ∧
        ∀ ordinal ∈ ordinals, ∃ position,
        Selects relation columns ordinal position
  positions {positions : List Nat} :
    orderFields schema relation index columns order = .ok positions →
      List.Forall₂ (Selects relation columns) ordinals positions
  blank :
    ordinals = [] →
      orderFields schema relation index columns order =
        .error (.indexOrdinal (qualified schema relation.nativeName)
          index order)
  fails {cause : Error} :
    orderFields schema relation index columns order = .error cause →
      ordinals ≠ [] →
        ∃ front ordinal rest, ordinals = front ++ ordinal :: rest ∧
          (∀ earlier ∈ front, ∃ position,
            Selects relation columns earlier position) ∧
          Strays (qualified schema relation.nativeName) relation index columns
            ordinal cause

section Orders

variable {schema : String} {relation : Relation} {index : String}
  {columns : List IndexColumnRecord} {order : String}
  {ordinals : List (List Char)}

private theorem orderFields_of_nonempty (spaced : Spaced ordinals order.toList)
    (nonempty : ordinals ≠ []) :
    orderFields schema relation index columns order =
      ordinals.mapM
        (fieldOfOrdinal (qualified schema relation.nativeName) relation
        index columns) := by
  rw [orderFields, spaced.words_eq]
  cases ordinals with
  | nil => exact absurd rfl nonempty
  | cons ordinal later => rfl

private theorem orderFields_of_blank (blank : Spaced [] order.toList) :
    orderFields schema relation index columns order =
      .error (.indexOrdinal (qualified schema relation.nativeName)
        index order) := by
  rw [orderFields, blank.words_eq]

private theorem ordersExactly_of_blank (blank : Spaced [] order.toList) :
    OrdersExactly schema relation index columns order [] := by
  have refused : orderFields schema relation index columns order = .error _ :=
    orderFields_of_blank blank
  constructor
  · simp [refused]
  · simp [refused]
  · exact fun _ => refused
  · intro _ _ nonempty
    exact absurd rfl nonempty

private theorem ordersExactly_of_nonempty
    (spaced : Spaced ordinals order.toList) (nonempty : ordinals ≠ []) :
    OrdersExactly schema relation index columns order ordinals := by
  have read : orderFields schema relation index columns order =
      ordinals.mapM _ :=
    orderFields_of_nonempty spaced nonempty
  constructor
  case succeeds_iff =>
    simp only [read, exists_mapM_eq_ok_iff, fieldOfOrdinal_eq_ok_iff]
    exact (and_iff_right nonempty).symm
  case positions =>
    intro positions ordered
    rw [read] at ordered
    apply (forall₂_of_mapM_eq_ok ordered).imp
    intro ordinal position found
    exact fieldOfOrdinal_eq_ok_iff.mp found
  case blank => exact fun blank => absurd blank nonempty
  case fails =>
    intro cause failed _
    rw [read] at failed
    obtain ⟨front, ordinal, rest, split, before, failed⟩ :=
      exists_first_of_mapM_eq_error failed
    refine ⟨front, ordinal, rest, split, ?_,
      fieldOfOrdinal_eq_error_iff.mp failed⟩
    intro earlier isEarlier
    obtain ⟨position, found⟩ := before earlier isEarlier
    exact ⟨position, fieldOfOrdinal_eq_ok_iff.mp found⟩

private theorem ordersExactly_of_spaced
    (spaced : Spaced ordinals order.toList) :
    OrdersExactly schema relation index columns order ordinals := by
  by_cases blank : ordinals = []
  · subst blank
    exact ordersExactly_of_blank spaced
  · exact ordersExactly_of_nonempty spaced blank

end Orders

/-- The outcomes for the orders of one index.  An order has its ordinals and no
others, and they decide; one that is written from listed ids of fields, with
white space around them, leads to these fields, however the columns are
listed. -/
structure ReadsOrders (schema : String) (relation : Relation) (index : String)
    (columns : List IndexColumnRecord) : Prop where
  splits (order : String) : ∃! ordinals, Spaced ordinals order.toList
  orders {order : String} {ordinals : List (List Char)} :
    Spaced ordinals order.toList →
      OrdersExactly schema relation index columns order ordinals
  written {listed chosen : List IndexColumnRecord} {positions : List Nat}
      {order : String} :
    (columns.map IndexColumnRecord.columnId).Nodup →
      listed.Perm columns →
      chosen ≠ [] →
      (∀ column ∈ chosen, column ∈ columns ∧ IsSigned64 column.columnId) →
      List.Forall₂
        (fun column position => relation.FirstAt position column.name)
        chosen positions →
      Spaced (chosen.map fun column => (signedDecimal column.columnId).toList)
        order.toList →
      orderFields schema relation index listed order = .ok positions

section Written

variable {relation : Relation} {columns chosen : List IndexColumnRecord}
  {positions : List Nat}

private theorem forall₂_selects_of_listed
    (distinct : (columns.map IndexColumnRecord.columnId).Nodup)
    (listed : ∀ column ∈ chosen, column ∈ columns ∧ IsSigned64 column.columnId)
    (found : List.Forall₂
      (fun column position => relation.FirstAt position column.name)
      chosen positions) :
    List.Forall₂ (Selects relation columns)
      (chosen.map fun column => (signedDecimal column.columnId).toList)
      positions := by
  induction found with
  | nil => exact .nil
  | @cons column position _ _ first _ ih =>
      obtain ⟨⟨isListed, inRange⟩, others⟩ := List.forall_mem_cons.mp listed
      have numeral : Denotes64 (signedDecimal column.columnId).toList
          column.columnId :=
        ⟨denotes_signedDecimal column.columnId, inRange⟩
      exact .cons
        ⟨_, column, numeral, IndexColumnRecord.firstIn_of_mem distinct isListed,
          first⟩
        (ih others)

end Written

/-- Every order of index columns is read exactly. -/
theorem readsOrders (schema : String) (relation : Relation) (index : String)
    (columns : List IndexColumnRecord) :
    ReadsOrders schema relation index columns where
  splits order :=
    ⟨Text.words order.toList, words_eq_iff.mp rfl,
      fun _ spaced => spaced.words_eq.symm⟩
  orders := ordersExactly_of_spaced
  written := by
    intro listed chosen positions order distinct perm nonempty isListed found
      spaced
    have selected := forall₂_selects_of_listed distinct isListed found
    rw [← orderFields_eq_of_perm perm.symm distinct,
      orderFields_of_nonempty spaced (by simpa using nonempty)]
    apply mapM_eq_ok_of_forall₂
    apply selected.imp
    intro ordinal position selects
    exact fieldOfOrdinal_eq_ok_iff.mpr selects

end Build

end SchemaAtlas
