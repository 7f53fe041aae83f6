import SchemaAtlas.Proofs.Adapter.Inquiries
import SchemaAtlas.Proofs.Build.CrossReference
import SchemaAtlas.Proofs.Text.Keywords

/-!
# Resolution of foreign keys

A foreign key record fits the relations that were loaded, or it misses them for
one reason, the first that applies.  Where all records fit, every relation gets
one foreign key for each of its records, in their order.  Otherwise the first
record that misses is the error: the first of the first relation, in the order
of the native names, that has such a record.  No relation after that one is
asked for its foreign keys.
-/

namespace SchemaAtlas

open Catalog

namespace Relation

def HasColumn (relation : Relation) (column : String) : Prop :=
  ∃ field ∈ relation.fields, field.column.name = column

/-- Some field of a relation belongs to its primary key. -/
def HasPrimaryKey (relation : Relation) : Prop :=
  ∃ field ∈ relation.fields, field.column.inPrimaryKey = true

/-- A relation has what a record refers to: the column that the record names, or
a primary key where it names none. -/
def Offers (target : Relation) (record : ForeignKeyRecord) : Prop :=
  (∃ column, record.refColumn = some column ∧ column ≠ "" ∧
    target.HasColumn column) ∨
  ((∀ column, record.refColumn = some column → column = "") ∧
    target.HasPrimaryKey)

theorem hasColumn_iff {relation : Relation} {column : String} :
    relation.HasColumn column ↔
      ∃ position, relation.positionOf? column = some position := by
  rw [← Option.isSome_iff_exists, positionOf?, List.findIdx?_isSome]
  simp [HasColumn]

theorem hasPrimaryKey_iff {relation : Relation} :
    relation.HasPrimaryKey ↔ ∃ position, relation.primaryKey? =
      some position := by
  rw [← Option.isSome_iff_exists, Option.isSome_iff_ne_none, ne_eq,
    relation.marksPrimaryKey.missing]
  constructor
  · rintro ⟨field, membership, flagged⟩ noFields
    obtain ⟨position, there⟩ := List.getElem?_of_mem membership
    have isMarked := mem_primaryKeyFields_iff.mpr ⟨field, there, flagged⟩
    rw [noFields] at isMarked
    cases isMarked
  · intro someField
    obtain ⟨position, isMarked⟩ := List.exists_mem_of_ne_nil _ someField
    obtain ⟨field, there, flagged⟩ := mem_primaryKeyFields_iff.mp isMarked
    exact ⟨field, List.mem_of_getElem? there, flagged⟩

end Relation

namespace Build

open Recorded

variable {adapter : Adapter} {schema : String} {relations : NameMap Relation}
  {owner : Relation} {record : ForeignKeyRecord} {miss : ForeignKeyMiss}

/-- The name of the constraint that a record belongs to: its own, or one made of
the table and the column. -/
def constraintName (owner : Relation) (record : ForeignKeyRecord) : String :=
  if record.name = "" then
    owner.nativeName ++ "_" ++ record.column ++ "_fkey"
  else record.name

/-- A foreign key record fits the relations that were loaded. -/
structure Fits (relations : NameMap Relation) (owner : Relation)
    (record : ForeignKeyRecord) : Prop where
  column : owner.HasColumn record.column
  referenced : ∃ target, relations.find? record.refTable = some target ∧
    target.Offers record

/-- The reason why a foreign key record does not fit the relations that were
loaded.  A reason applies only where those before it do not. -/
inductive Misses (relations : NameMap Relation) (owner : Relation)
    (record : ForeignKeyRecord) : ForeignKeyMiss → Prop where
  | owningColumn (missing : ¬ owner.HasColumn record.column) :
      Misses relations owner record (.owningColumn record.column)
  | referencedRelation (owning : owner.HasColumn record.column)
      (missing : relations.find? record.refTable = none) :
      Misses relations owner record (.referencedRelation record.refTable)
  | referencedColumn {target : Relation} {column : String}
      (owning : owner.HasColumn record.column)
      (loaded : relations.find? record.refTable = some target)
      (named : record.refColumn = some column) (nonempty : column ≠ "")
      (missing : ¬ target.HasColumn column) :
      Misses relations owner record (.referencedColumn record.refTable column)
  | noPrimaryKey {target : Relation}
      (owning : owner.HasColumn record.column)
      (loaded : relations.find? record.refTable = some target)
      (unnamed : ∀ column, record.refColumn = some column → column = "")
      (missing : ¬ target.HasPrimaryKey) :
      Misses relations owner record (.noPrimaryKey record.refTable)

/-- A foreign key stands for a record of its owner. -/
structure StandsFor (relations : NameMap Relation) (owner : Relation)
    (record : ForeignKeyRecord) (key : ForeignKey) : Prop where
  name : key.name = constraintName owner record
  source : key.record = { record with name := constraintName owner record }
  leads : ∃ target, relations.find? record.refTable = some target ∧
    key.Leads owner target

/-- The error about a record that does not fit. -/
def missError (schema : String) (owner : Relation) (record : ForeignKeyRecord)
    (miss : ForeignKeyMiss) : Error :=
  .foreignKey (qualified schema owner.nativeName) (constraintName owner record)
    miss

theorem refColumn_cases (record : ForeignKeyRecord) :
    (∃ column, record.refColumn = some column ∧ column ≠ "") ∨
      ∀ column, record.refColumn = some column → column = "" := by
  by_cases named : ∃ column, record.refColumn = some column ∧ column ≠ ""
  · exact .inl named
  · right
    intro column reported
    by_contra nonempty
    exact named ⟨column, reported, nonempty⟩

theorem fits_or_misses (relations : NameMap Relation) (owner : Relation)
    (record : ForeignKeyRecord) :
    Fits relations owner record ∨
    ∃ miss, Misses relations owner record miss := by
  by_cases owning : owner.HasColumn record.column
  case neg => exact .inr ⟨_, .owningColumn owning⟩
  cases loaded : relations.find? record.refTable with
  | none => exact .inr ⟨_, .referencedRelation owning loaded⟩
  | some target =>
      rcases refColumn_cases record with ⟨column, named, nonempty⟩ | unnamed
      · by_cases offered : target.HasColumn column
        · exact .inl ⟨owning, target, loaded,
            .inl ⟨column, named, nonempty, offered⟩⟩
        · exact .inr ⟨_, .referencedColumn owning loaded named nonempty offered⟩
      · by_cases offered : target.HasPrimaryKey
        · exact .inl ⟨owning, target, loaded, .inr ⟨unnamed, offered⟩⟩
        · exact .inr ⟨_, .noPrimaryKey owning loaded unnamed offered⟩

private theorem Misses.not_fits (misses : Misses relations owner record miss) :
    ¬ Fits relations owner record := by
  rintro ⟨owning, target, loaded, offers⟩
  cases misses with
  | owningColumn missing => exact missing owning
  | referencedRelation _ missing => rw [missing] at loaded; cases loaded
  | referencedColumn _ alsoLoaded named nonempty missing =>
      rw [alsoLoaded] at loaded
      cases loaded
      rcases offers with ⟨column, alsoNamed, _, offered⟩ | ⟨unnamed, _⟩
      · rw [named] at alsoNamed
        cases alsoNamed
        exact missing offered
      · exact nonempty (unnamed _ named)
  | noPrimaryKey _ alsoLoaded unnamed missing =>
      rw [alsoLoaded] at loaded
      cases loaded
      rcases offers with ⟨column, named, nonempty, _⟩ | ⟨_, offered⟩
      · exact nonempty (unnamed column named)
      · exact missing offered

private theorem filter_refColumn_of_named {column : String}
    (named : record.refColumn = some column) (nonempty : column ≠ "") :
    (record.refColumn.filter fun column => !column.isEmpty) = some column := by
  rw [Option.filter_eq_some_iff]
  exact ⟨named, by simpa using nonempty⟩

private theorem filter_refColumn_of_unnamed
    (unnamed : ∀ column, record.refColumn = some column → column = "") :
    (record.refColumn.filter fun column => !column.isEmpty) = none := by
  rw [Option.filter_eq_none_iff]
  intro column named
  simp [unnamed column named]

private theorem exists_refPosition_of_offers {target : Relation}
    (offers : target.Offers record) :
    ∃ position, refPosition record target = .ok position := by
  unfold refPosition
  rcases offers with ⟨column, named, nonempty, offered⟩ | ⟨unnamed, offered⟩
  · obtain ⟨position, there⟩ := Relation.hasColumn_iff.mp offered
    simp only [filter_refColumn_of_named named nonempty, there]
    exact ⟨position, rfl⟩
  · obtain ⟨position, there⟩ := Relation.hasPrimaryKey_iff.mp offered
    simp only [filter_refColumn_of_unnamed unnamed, there]
    exact ⟨position, rfl⟩

private theorem exists_resolveNamed_of_fits
    (fits : Fits relations owner record) :
    ∃ key, resolveNamed relations owner record = .ok key := by
  obtain ⟨position, owning⟩ := Relation.hasColumn_iff.mp fits.column
  obtain ⟨target, loaded, offers⟩ := fits.referenced
  obtain ⟨place, referred⟩ := exists_refPosition_of_offers offers
  simp only [resolveNamed, owning, loaded, referred]
  exact ⟨_, rfl⟩

theorem positionOf?_eq_none {relation : Relation} {column : String}
    (missing : ¬ relation.HasColumn column) :
    relation.positionOf? column = none := by
  rw [Relation.hasColumn_iff] at missing
  exact Option.eq_none_iff_forall_ne_some.mpr fun position there =>
    missing ⟨position, there⟩

theorem primaryKey?_eq_none {relation : Relation}
    (missing : ¬ relation.HasPrimaryKey) : relation.primaryKey? = none := by
  rw [Relation.hasPrimaryKey_iff] at missing
  exact Option.eq_none_iff_forall_ne_some.mpr fun position there =>
    missing ⟨position, there⟩

private theorem resolveNamed_of_misses
    (misses : Misses relations owner record miss) :
    resolveNamed relations owner record = .error miss := by
  cases misses with
  | owningColumn missing =>
      simp only [resolveNamed, positionOf?_eq_none missing]
  | referencedRelation owning missing =>
      obtain ⟨position, owning⟩ := Relation.hasColumn_iff.mp owning
      simp only [resolveNamed, owning, missing]
  | referencedColumn owning loaded named nonempty missing =>
      obtain ⟨position, owning⟩ := Relation.hasColumn_iff.mp owning
      simp only [resolveNamed, owning, loaded, refPosition,
        filter_refColumn_of_named named nonempty, positionOf?_eq_none missing]
      rfl
  | noPrimaryKey owning loaded unnamed missing =>
      obtain ⟨position, owning⟩ := Relation.hasColumn_iff.mp owning
      simp only [resolveNamed, owning, loaded, refPosition,
        filter_refColumn_of_unnamed unnamed, primaryKey?_eq_none missing]
      rfl

theorem nameForeignKey_eq (owner : Relation) (record : ForeignKeyRecord) :
    nameForeignKey owner record =
      { record with name := constraintName owner record } := by
  unfold nameForeignKey constraintName
  by_cases unnamed : record.name = ""
  · rw [if_pos (by simp [unnamed]), if_pos unnamed]
  · rw [if_neg (by simpa using unnamed), if_neg unnamed]

theorem Fits.rename (fits : Fits relations owner record) (name : String) :
    Fits relations owner { record with name } :=
  ⟨fits.column, fits.referenced⟩

theorem Misses.rename (misses : Misses relations owner record miss)
    (name : String) : Misses relations owner { record with name } miss := by
  cases misses with
  | owningColumn missing =>
      exact @owningColumn relations owner { record with name } missing
  | referencedRelation owning missing =>
      exact @referencedRelation relations owner { record with name } owning
        missing
  | referencedColumn owning loaded named nonempty missing =>
      exact @referencedColumn relations owner { record with name } _ _ owning
        loaded named nonempty missing
  | noPrimaryKey owning loaded unnamed missing =>
      exact @noPrimaryKey relations owner { record with name } _ owning loaded
        unnamed missing

private theorem resolveForeignKey_of_misses (schema : String)
    (misses : Misses relations owner record miss) :
    resolveForeignKey schema relations owner record =
      .error (missError schema owner record miss) := by
  rw [resolveForeignKey, nameForeignKey_eq, resolveNamed_of_misses
    (misses.rename _)]
  rfl

private theorem standsFor_of_resolveForeignKey {key : ForeignKey}
    (named : relations.Every fun name relation => relation.nativeName = name)
    (resolved : resolveForeignKey schema relations owner record = .ok key) :
    StandsFor relations owner record key := by
  obtain ⟨target, loaded, leads⟩ := leads_of_resolveForeignKey named resolved
  obtain ⟨position, _, place, _, _, _, rfl⟩ :=
    of_resolveNamed (resolveNamed_of_resolveForeignKey resolved)
  rw [nameForeignKey_eq] at loaded leads ⊢
  exact ⟨rfl, rfl, target, loaded, leads⟩

private theorem exists_resolveForeignKey_of_fits (schema : String)
    (fits : Fits relations owner record) :
    ∃ key, resolveForeignKey schema relations owner record = .ok key := by
  obtain ⟨key, resolved⟩ := exists_resolveNamed_of_fits
    (fits.rename (constraintName owner record))
  rw [resolveForeignKey, nameForeignKey_eq, resolved]
  exact ⟨key, rfl⟩

/-- The first of some records that does not fit, and the reason. -/
structure FirstMiss (relations : NameMap Relation) (owner : Relation)
    (records : List ForeignKeyRecord) (record : ForeignKeyRecord)
    (miss : ForeignKeyMiss) : Prop where
  first : ∃ front rest, records = front ++ record :: rest ∧
    ∀ earlier ∈ front, Fits relations owner earlier
  misses : Misses relations owner record miss

theorem allFit_or_firstMiss (relations : NameMap Relation) (owner : Relation)
    (records : List ForeignKeyRecord) :
    (∀ record ∈ records, Fits relations owner record) ∨
      ∃ record miss, FirstMiss relations owner records record miss := by
  induction records with
  | nil => exact .inl (List.forall_mem_nil _)
  | cons record rest ih =>
      rcases fits_or_misses relations owner record with fits | ⟨miss, misses⟩
      · rcases ih with allFit | ⟨later, miss, ⟨front, behind, rfl, fit⟩, misses⟩
        · exact .inl (List.forall_mem_cons.mpr ⟨fits, allFit⟩)
        · exact .inr ⟨later, miss, ⟨record :: front, behind, rfl,
            List.forall_mem_cons.mpr ⟨fits, fit⟩⟩, misses⟩
      · exact .inr ⟨record, miss, ⟨[], rest, rfl, List.forall_mem_nil _⟩,
          misses⟩

private theorem FirstMiss.not_allFit {records : List ForeignKeyRecord}
    (firstMiss : FirstMiss relations owner records record miss) :
    ¬ ∀ record ∈ records, Fits relations owner record := by
  intro allFit
  obtain ⟨⟨front, rest, rfl, _⟩, misses⟩ := firstMiss
  exact misses.not_fits
    (allFit _ (List.mem_append_right _ List.mem_cons_self))

private theorem mapM_resolveForeignKey_of_allFit (schema : String)
    {records : List ForeignKeyRecord}
    (named : relations.Every fun name relation => relation.nativeName = name)
    (allFit : ∀ record ∈ records, Fits relations owner record) :
    ∃ keys, records.mapM (resolveForeignKey schema relations owner) = .ok keys ∧
      List.Forall₂ (StandsFor relations owner) records keys := by
  obtain ⟨keys, resolved⟩ := exists_mapM_eq_ok_iff.mpr fun record membership =>
    exists_resolveForeignKey_of_fits schema (allFit record membership)
  refine ⟨keys, resolved, ?_⟩
  apply (forall₂_of_mapM_eq_ok resolved).imp
  intro record key resolved
  exact standsFor_of_resolveForeignKey named resolved

private theorem mapM_resolveForeignKey_of_firstMiss
    {records : List ForeignKeyRecord} (schema : String)
    (firstMiss : FirstMiss relations owner records record miss) :
    records.mapM (resolveForeignKey schema relations owner) =
      .error (missError schema owner record miss) := by
  obtain ⟨⟨front, rest, rfl, fit⟩, misses⟩ := firstMiss
  induction front with
  | nil =>
      rw [List.nil_append, List.mapM_cons,
        resolveForeignKey_of_misses schema misses]
      rfl
  | cons earlier front ih =>
      rw [List.forall_mem_cons] at fit
      obtain ⟨key, resolved⟩ := exists_resolveForeignKey_of_fits schema fit.1
      rw [List.cons_append, List.mapM_cons, resolved, ih fit.2]
      rfl

end Build

/-- The foreign key records of a relation that are resolved: those that are
reported, after the correction if the adapter declares one. -/
def Adapter.keptRecords (adapter : Adapter) (records : List ForeignKeyRecord) :
    List ForeignKeyRecord :=
  if adapter.capabilities.foreignKeyCorrection then
    adapter.correctForeignKeys records
  else records

def Engine.foreignKeyRequest (engine : Engine) (schema relation : String) :
    Request :=
  match engine with
  | .sqlite => .query Sqlite.Queries.foreignKeys [relation]
  | .postgresql | .cockroachdb =>
    .query PostgreSql.Queries.foreignKeys [schema, relation]
  | .mysql => .query MySql.Queries.foreignKeys [schema, relation]
  | .oracle => .query Oracle.Queries.foreignKeys [schema, relation]

theorem Adapter.asked_foreignKeys (engine : Engine) (schema relation : String)
    (connection : Connection) (before : List Request) :
    ((Adapter.builtin engine).foreignKeys schema relation connection before).2 =
      [engine.foreignKeyRequest schema relation] := by
  cases engine with
  | sqlite | postgresql | cockroachdb | mysql | oracle =>
      exact congrArg Prod.snd
        (congrFun (congrFun (Inquiry.listOf_eq_asking _ _ _) connection) before)

namespace Build

open Recorded

section Run

variable (adapter : Adapter) (schema : String) (relations : NameMap Relation)
  (request : String → Request) (connection : Connection)
  (reported : Relation → List ForeignKeyRecord)

/-- Every record of a relation fits. -/
def AllFit (owner : Relation) : Prop :=
  ∀ record ∈ adapter.keptRecords (reported owner), Fits relations owner record

/-- No query for foreign keys fails, and the records are reported as given.
Only what is asked has to be answered: the query for a relation comes behind
those for the relations before it, if all of their records fit. -/
def ReportsKeys (before : List Request) (owners : List Relation) : Prop :=
  ∀ front owner rest, owners = front ++ owner :: rest →
    (∀ earlier ∈ front, AllFit adapter relations reported earlier) →
      (adapter.foreignKeys schema owner.nativeName connection
        (before ++ front.map fun earlier => request earlier.nativeName)).1 =
        .ok (reported owner)

/-- What a relation owns once its records are resolved. -/
def OwnsKeys (owner : Relation) (own : OwnedKeys) : Prop :=
  own.relation = owner ∧
    List.Forall₂ (StandsFor relations owner)
      (adapter.keptRecords (reported owner)) own.keys

/-- A run over relations resolved all of their records, or it ended with the
first that does not fit. -/
inductive KeyRun :
    List Relation → Except Error (List OwnedKeys) × List Request → Prop where
  | resolved {owners : List Relation} {owned : List OwnedKeys}
      (fit : ∀ owner ∈ owners, AllFit adapter relations reported owner)
      (owns :
        List.Forall₂ (OwnsKeys adapter relations reported) owners owned) :
      KeyRun owners
        (.ok owned, owners.map fun owner => request owner.nativeName)
  | missed {front : List Relation} {owner : Relation} (rest : List Relation)
      {record : ForeignKeyRecord} {miss : ForeignKeyMiss}
      (fit : ∀ earlier ∈ front, AllFit adapter relations reported earlier)
      (firstMiss : FirstMiss relations owner
        (adapter.keptRecords (reported owner)) record miss) :
      KeyRun (front ++ owner :: rest)
        (.error (missError schema owner record miss),
          (front ++ [owner]).map fun asked => request asked.nativeName)

end Run

section Run

variable {adapter : Adapter} {schema : String} {relations : NameMap Relation}
  {request : String → Request} {connection : Connection}
  {reported : Relation → List ForeignKeyRecord} {before : List Request}
  {owner : Relation} {owners : List Relation}

theorem ReportsKeys.rest {first : Relation} {rest : List Relation}
    (reports : ReportsKeys adapter schema relations request connection reported
      before (first :: rest))
    (allFit : AllFit adapter relations reported first) :
    ReportsKeys adapter schema relations request connection reported
      (before ++ [request first.nativeName]) rest := by
  intro front owner behind shape fit
  have answered := reports (first :: front) owner behind (by rw [shape]; rfl)
    (List.forall_mem_cons.mpr ⟨allFit, fit⟩)
  rwa [List.map_cons, ← List.singleton_append, ← List.append_assoc] at answered

theorem loadForeignKeys_apply (relations : NameMap Relation)
    (asked : (adapter.foreignKeys schema owner.nativeName connection before).2 =
      [request owner.nativeName])
    (answered : (adapter.foreignKeys schema owner.nativeName connection
      before).1 = .ok (reported owner)) :
    loadForeignKeys adapter schema relations owner connection before =
      (((adapter.keptRecords (reported owner)).mapM
        (resolveForeignKey schema relations owner)).map (OwnedKeys.mk owner),
        [request owner.nativeName]) := by
  rw [loadForeignKeys, bind_of_ok (Prod.ext answered asked), map_apply]
  rfl

/-- A run goes on behind a relation whose records all fit. -/
theorem KeyRun.cons {first : Relation} {keys : List ForeignKey}
    {run : Except Error (List OwnedKeys) × List Request}
    (allFit : AllFit adapter relations reported first)
    (stand : List.Forall₂ (StandsFor relations first)
      (adapter.keptRecords (reported first)) keys)
    (later : KeyRun adapter schema relations request reported owners run) :
    KeyRun adapter schema relations request reported (first :: owners)
      (run.1.map (⟨first, keys⟩ :: ·), request first.nativeName :: run.2) := by
  cases later with
  | resolved fit owns =>
      exact .resolved (List.forall_mem_cons.mpr ⟨allFit, fit⟩)
        (.cons ⟨rfl, stand⟩ owns)
  | missed rest fit firstMiss =>
      have fits := List.forall_mem_cons.mpr ⟨allFit, fit⟩
      exact (KeyRun.missed rest fits firstMiss :)

theorem keyRun_mapM_loadForeignKeys
    (named : relations.Every fun name relation => relation.nativeName = name)
    (asked : ∀ name before,
      (adapter.foreignKeys schema name connection before).2 = [request name])
    (reports : ReportsKeys adapter schema relations request connection reported
      before owners) :
    KeyRun adapter schema relations request reported owners
      (owners.mapM (loadForeignKeys adapter schema relations) connection
        before) := by
  induction owners generalizing before with
  | nil => exact .resolved (List.forall_mem_nil _) .nil
  | cons first rest ih =>
      have answered := reports [] first rest rfl (List.forall_mem_nil _)
      rw [List.map_nil, List.append_nil] at answered
      have run := loadForeignKeys_apply relations (asked _ _) answered
      rcases allFit_or_firstMiss relations first
        (adapter.keptRecords (reported first)) with
        allFit | ⟨record, miss, firstMiss⟩
      · obtain ⟨keys, resolved, stand⟩ :=
          mapM_resolveForeignKey_of_allFit schema named allFit
        rw [resolved] at run
        rw [mapM_cons_of_ok run]
        exact (ih (reports.rest allFit)).cons allFit stand
      · rw [mapM_resolveForeignKey_of_firstMiss schema firstMiss] at run
        rw [mapM_cons_of_error run]
        have fits := List.forall_mem_nil (AllFit adapter relations reported)
        exact (KeyRun.missed rest fits firstMiss :)

theorem OwnsKeys.nameAccessors {owned : List OwnedKeys} (options : Options)
    (owns : List.Forall₂ (OwnsKeys adapter relations reported) owners owned) :
    List.Forall₂ (OwnsKeys adapter relations reported) owners
      (nameAccessors options owned) := by
  rw [Build.nameAccessors, List.forall₂_map_right_iff]
  apply owns.imp
  rintro owner own ⟨rfl, stand⟩
  refine ⟨rfl, List.forall₂_map_right_iff.mpr (stand.imp ?_)⟩
  rintro record key ⟨name, source, target, loaded, leads⟩
  exact ⟨name, source, target, loaded, { leads with }⟩

/-- The relations before one in a map by native names are those whose names are
before its name. -/
theorem of_values_eq_append {front rest : List Relation}
    (named : relations.Every fun name relation => relation.nativeName = name)
    (shape : relations.values = front ++ owner :: rest) :
    relations.find? owner.nativeName = some owner ∧
      (∀ {name other}, relations.find? name = some other →
        name < owner.nativeName → other ∈ front) ∧
      relations.keys.filter (· ≤ owner.nativeName) =
        (front ++ [owner]).map Relation.nativeName := by
  have names := map_nativeName_values named
  have sorted : relations.keys.Pairwise (· < ·) := relations.sorted
  rw [← names, shape, List.map_append, List.map_cons, List.pairwise_append,
    List.pairwise_cons] at sorted
  obtain ⟨_, ⟨behind, _⟩, ahead⟩ := sorted
  have isValue : owner ∈ relations.values := by simp [shape]
  obtain ⟨name, found⟩ := NameMap.mem_values_iff.mp isValue
  have sameName := named found
  refine ⟨sameName ▸ found, ?_, ?_⟩
  · intro name other held less
    have isOther : other ∈ front ++ owner :: rest :=
      shape ▸ NameMap.mem_values_iff.mpr ⟨name, held⟩
    have otherName := named held
    rcases List.mem_append.mp isOther with inFront | atOrBehind
    · exact inFront
    · rcases List.mem_cons.mp atOrBehind with rfl | inRest
      · rw [otherName] at less
        exact absurd less (String.lt_irrefl _)
      · have greater := behind _ (List.mem_map_of_mem inRest)
        rw [otherName] at greater
        exact absurd less (String.lt_asymm greater)
  · rw [← names, shape, List.map_append, List.map_cons, List.filter_append,
      List.filter_eq_self.mpr, List.filter_cons, if_pos,
      List.filter_eq_nil_iff.mpr, List.map_append]
    · rfl
    · intro key membership
      simpa using behind key membership
    · simp
    · intro key membership
      have less := ahead key membership _ List.mem_cons_self
      simpa using String.not_lt.mp (String.lt_asymm less)

end Run

/-- The foreign keys of relations were resolved, or the first record that does
not fit was the error.  The relations are those that were loaded, each with the
records that are reported for it. -/
structure ResolvesExactly (adapter : Adapter) (schema : String)
    (relations : NameMap Relation) (request : String → Request)
    (reported : Relation → List ForeignKeyRecord)
    (run : Except Error (List OwnedKeys) × List Request) : Prop where
  succeeds_iff : (∃ owned, run.1 = .ok owned) ↔
    ∀ name owner, relations.find? name = some owner →
      AllFit adapter relations reported owner
  asksAll : ∀ {owned}, run.1 = .ok owned → run.2 = relations.keys.map request
  attaches : ∀ {owned}, run.1 = .ok owned →
    ∀ {name owner}, relations.find? name = some owner →
      ∃ keys, (attachForeignKeys relations owned).find? name =
          some { owner with foreignKeys := keys } ∧
        List.Forall₂ (StandsFor relations owner)
          (adapter.keptRecords (reported owner)) keys
  fails : ∀ {cause}, run.1 = .error cause → ∃ name owner record miss,
    relations.find? name = some owner ∧
    (∀ {earlier other}, relations.find? earlier = some other → earlier < name →
      AllFit adapter relations reported other) ∧
    FirstMiss relations owner (adapter.keptRecords (reported owner)) record
      miss ∧
    cause = missError schema owner record miss ∧
    run.2 = (relations.keys.filter (· ≤ name)).map request

section Run

variable {adapter : Adapter} {schema : String} {relations : NameMap Relation}
  {request : String → Request} {reported : Relation → List ForeignKeyRecord}
  {run : Except Error (List OwnedKeys) × List Request}

private theorem KeyRun.exact_of_owners (options : Options)
    (named : relations.Every fun name relation => relation.nativeName = name)
    (keyRun : KeyRun adapter schema relations request reported relations.values
      run) :
    ResolvesExactly adapter schema relations request reported
      (run.1.map (nameAccessors options), run.2) := by
  generalize valuesEq : relations.values = owners at keyRun
  cases keyRun with
  | resolved fit owns =>
      rename_i owned
      subst valuesEq
      constructor
      case succeeds_iff =>
        refine iff_of_true ⟨_, rfl⟩ ?_
        intro name owner found
        exact fit owner (NameMap.mem_values_iff.mpr ⟨name, found⟩)
      case asksAll =>
        intro _ _
        rw [← map_nativeName_values named, List.map_map]
        rfl
      case attaches =>
        intro named' succeeded name owner found
        cases succeeded
        have owns := OwnsKeys.nameAccessors options owns
        have owners : (nameAccessors options owned).map OwnedKeys.relation =
            relations.values :=
          map_eq_of_forall₂ (owns.imp fun _ _ owns => owns.1)
        obtain ⟨own, isOwned, rfl, stand⟩ := exists_mem_of_forall₂ owns.flip
          (NameMap.mem_values_iff.mpr ⟨name, found⟩)
        refine ⟨own.keys, ?_, stand⟩
        exact (find?_attachForeignKeys_iff named owners).mpr
          ⟨own, isOwned, named found, rfl⟩
      case fails =>
        intro cause failed
        cases failed
  | missed rest fit firstMiss =>
      rename_i front owner record miss
      obtain ⟨found, ahead, asked⟩ := of_values_eq_append named valuesEq
      constructor
      case succeeds_iff =>
        refine iff_of_false ?_ ?_
        · rintro ⟨owned, succeeded⟩
          cases succeeded
        · intro allFit
          exact firstMiss.not_allFit (allFit _ owner found)
      case asksAll =>
        intro owned succeeded
        cases succeeded
      case attaches =>
        intro owned succeeded
        cases succeeded
      case fails =>
        intro cause failed
        cases failed
        refine ⟨_, owner, record, miss, found, ?_, firstMiss, rfl, ?_⟩
        · intro earlier other held less
          exact fit other (ahead held less)
        · rw [asked, List.map_map]
          rfl

end Run

/-- The adapter of an engine, with capabilities that may differ from its own. -/
def adapterWith (engine : Engine) (capabilities : Capabilities) : Adapter :=
  { Adapter.builtin engine with capabilities }

/-- What is kept of a record does not depend on the others.  Only CockroachDB
corrects what it reports: a record stays there if the name of its constraint has
that of the column in it. -/
theorem exists_keptRecords_eq_filter (engine : Engine)
    (capabilities : Capabilities) : ∃ keeps : ForeignKeyRecord → Bool,
      (∀ records, (adapterWith engine capabilities).keptRecords records =
        records.filter keeps) ∧
      ∀ record, keeps record = true ↔
        (capabilities.foreignKeyCorrection = true → engine = .cockroachdb →
          record.column.toList <:+: record.name.toList) := by
  cases corrects : capabilities.foreignKeyCorrection with
  | false =>
      refine ⟨fun _ => true, fun records => ?_, by simp⟩
      rw [List.filter_true]
      exact if_neg (Bool.eq_false_iff.mp corrects)
  | true =>
      have corrected (records : List ForeignKeyRecord) :
          (adapterWith engine capabilities).keptRecords records =
            (Adapter.builtin engine).correctForeignKeys records :=
        if_pos corrects
      cases engine with
      | cockroachdb =>
          refine ⟨fun record =>
            Text.occursIn record.column.toList record.name.toList,
            corrected, fun record => ?_⟩
          rw [Text.occursIn_iff]
          simp
      | sqlite | postgresql | mysql | oracle =>
          refine ⟨fun _ => true, fun records => ?_, by simp⟩
          rw [corrected, List.filter_true]
          rfl

/-- The foreign keys of loaded relations are resolved exactly if all of their
records fit; otherwise the first record that does not fit is the error. -/
theorem resolvesExactly (engine : Engine) (capabilities : Capabilities)
    (options : Options) (schema : String) {relations : NameMap Relation}
    (named : relations.Every fun name relation => relation.nativeName = name)
    {connection : Connection} {before : List Request}
    {reported : Relation → List ForeignKeyRecord}
    (reports : ReportsKeys (adapterWith engine capabilities) schema relations
      (engine.foreignKeyRequest schema) connection reported before
      relations.values) :
    ResolvesExactly (adapterWith engine capabilities) schema relations
      (engine.foreignKeyRequest schema) reported
      (resolveForeignKeys (adapterWith engine capabilities) options schema
        relations connection before) := by
  rw [resolveForeignKeys, map_apply]
  apply KeyRun.exact_of_owners options named
  apply keyRun_mapM_loadForeignKeys named _ reports
  intro name before
  exact Adapter.asked_foreignKeys engine schema name connection before

namespace Harbour

/-- A relation of a harbour, as it is loaded from CockroachDB. -/
def relation (name : String) (columns : List ColumnRecord) : Relation :=
  relationOf .cockroachdb .standard "harbour" .table [] ⟨name, "r", none⟩
    columns

def berth : Relation :=
  relation "berth" [⟨1, "id", "int8", true, none, true, none⟩]

def ship : Relation :=
  relation "ship" [⟨1, "id", "int8", true, none, true, none⟩,
    ⟨2, "berth_id", "int8", true, none, false, none⟩,
    ⟨3, "captain_id", "int8", true, none, false, none⟩]

def voyage : Relation :=
  relation "voyage" [⟨1, "id", "int8", true, none, true, none⟩]

def relations : NameMap Relation :=
  byNativeName [voyage, berth, ship]

/-- A catalog that reports three foreign keys of the ships.  The second does not
mention its column, and the third refers to a relation that was not loaded. -/
def replies (_ : CatalogQuery) (parameters : List String) :
    Except DriverError (List Row) :=
  match parameters with
  | [_, "berth"] => .ok []
  | [_, "ship"] =>
    .ok [
      ⟨[.text "ship_berth_id", .text "berth_id", .text "berth", .null, .null,
        .null]⟩,
      ⟨[.text "ship_berth_id", .text "captain_id", .text "berth", .text "id",
        .null, .null]⟩,
      ⟨[.text "ship_captain_id", .text "captain_id", .text "captain",
        .text "id", .null, .null]⟩]
  | _ => .error (.failure "unexpected")

def connection : Connection :=
  .scripted replies fun _ => .ok ()

/-- The records that are reported for the relations of the harbour. -/
def reported (owner : Relation) : List ForeignKeyRecord :=
  match owner.nativeName with
  | "ship" =>
    [⟨"ship_berth_id", "berth_id", "berth", none, none, none⟩,
      ⟨"ship_berth_id", "captain_id", "berth", some "id", none, none⟩,
      ⟨"ship_captain_id", "captain_id", "captain", some "id", none, none⟩]
  | _ => []

def adapter : Adapter :=
  adapterWith .cockroachdb Adapter.cockroachdb.capabilities

theorem named :
    relations.Every fun name relation => relation.nativeName = name :=
  every_foldl_insert_nativeName (fun _ _ => rfl) (NameMap.every_empty _)

private theorem not_allFit_ship : ¬ AllFit adapter relations reported ship := by
  intro allFit
  obtain ⟨_, target, loaded, _⟩ := allFit
    ⟨"ship_captain_id", "captain_id", "captain", some "id", none, none⟩
    (by decide)
  cases loaded

private theorem reportsKeys :
    ReportsKeys adapter "harbour" relations
      (Engine.foreignKeyRequest .cockroachdb "harbour") connection reported []
      relations.values := by
  intro front owner rest shape fit
  replace shape : [berth, ship, voyage] = front ++ owner :: rest := shape
  rcases front with _ | ⟨_, _ | ⟨_, front⟩⟩
  · cases shape
    rfl
  · cases shape
    rfl
  · -- The voyages come behind the ships, whose records do not all fit.
    injection shape with _ shape
    injection shape with isShip _
    have shipFits := fit _ (List.mem_cons_of_mem _ List.mem_cons_self)
    rw [← isShip] at shipFits
    exact absurd shipFits not_allFit_ship

end Harbour

open Harbour

theorem resolvesExactly_harbour :
    (relations.Every fun name relation => relation.nativeName = name) ∧
    ReportsKeys adapter "harbour" relations
      (Engine.foreignKeyRequest .cockroachdb "harbour") connection reported []
      relations.values ∧
    ResolvesExactly adapter "harbour" relations
      (Engine.foreignKeyRequest .cockroachdb "harbour") reported
      (resolveForeignKeys adapter .standard "harbour" relations connection
        []) ∧
    resolveForeignKeys adapter .standard "harbour" relations connection [] =
      (.error (.foreignKey "harbour.ship" "ship_captain_id"
        (.referencedRelation "captain")),
        [.query PostgreSql.Queries.foreignKeys ["harbour", "berth"],
          .query PostgreSql.Queries.foreignKeys ["harbour", "ship"]]) := by
  refine ⟨named, reportsKeys, ?_, rfl⟩
  exact resolvesExactly .cockroachdb _ .standard "harbour" named reportsKeys

end Build

end SchemaAtlas
