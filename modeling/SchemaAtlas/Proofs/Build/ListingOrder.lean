import SchemaAtlas.Proofs.Build.OptionalProbes
import SchemaAtlas.Proofs.Exchange.Reordering
import Mathlib.Data.List.Find

/-!
# The order of listings

A catalog may list tables, the columns of indexes, and what the probes report in
any order.  A build succeeds in one order if it does in another, and leads to
the same graph but for the keys of the foreign keys.  Which error a failing
build ends with does depend on the order.

Relations are kept by their names, and the columns of an index by their ids, so
no two rows of a listing may report the same name or the same id.
-/

namespace SchemaAtlas

open Catalog

/-- A topic is about what is listed in an order that matters, or in none. -/
def Topic.IsOrdered (topic : Topic) : Prop :=
  topic ≠ .tables ∧ topic ≠ .indexColumns ∧ topic.probe? = none

instance : DecidablePred Topic.IsOrdered :=
  fun _ => inferInstanceAs (Decidable (_ ∧ _ ∧ _))

/-- Two catalogs give the same replies, but for the order in which they list
tables, the columns of indexes, and what the probes report.  No table is listed
twice, and no column of an index. -/
structure SameButOrder
    (replies otherReplies :
      CatalogQuery → List String → Except DriverError (List Row)) : Prop where
  tables : ∀ {query}, query.topic = .tables → ∀ parameters,
    Reordered (DistinctBy fun row => row.text 0) (replies query parameters)
      (otherReplies query parameters)
  indexColumns : ∀ {query}, query.topic = .indexColumns → ∀ parameters,
    Reordered (DistinctBy fun row => row.int 1) (replies query parameters)
      (otherReplies query parameters)
  probes : ∀ {query}, query.topic.probe? ≠ none → ∀ parameters,
    Reordered (fun _ => True) (replies query parameters)
      (otherReplies query parameters)
  others : ∀ {query}, query.topic.IsOrdered → ∀ parameters,
    replies query parameters = otherReplies query parameters

/-- What a probe reports is reordered where the reply to it is. -/
theorem perm_namesReported {form : List Row → Prop}
    {reply other : Except DriverError (List Row)}
    (reordered : Reordered form reply other) :
    (namesReported reply).Perm (namesReported other) := by
  cases reordered with
  | refused cause => exact .refl _
  | @rows rows others perm _ =>
      show ((rows.mapM nameOfRow).toOption.getD []).Perm
        ((others.mapM nameOfRow).toOption.getD [])
      rcases mapM_perm nameOfRow perm with
        ⟨cause, other, failed, otherFailed⟩ | ⟨names, others, run, otherRun,
          perm⟩
      · rw [failed, otherFailed]
        exact .refl _
      · rw [run, otherRun]
        exact perm

private theorem Catalog.IndexColumnRecord.columnId_of_ofRow {row : Row}
    {record : IndexColumnRecord}
    (read : IndexColumnRecord.ofRow row = .ok record) :
    row.int 1 = .ok record.columnId := by
  simp only [ofRow, DriverError.bind_eq_ok_iff] at read
  obtain ⟨_, _, columnId, found, _, _, ⟨⟩⟩ := read
  exact found

private theorem Adapter.exists_indexColumns_eq_listOf (engine : Engine)
    (schema relation index : String) :
    ∃ query parameters, query.topic = .indexColumns ∧
      (builtin engine).indexColumns schema relation index =
        Inquiry.listOf IndexColumnRecord.ofRow query parameters := by
  cases engine with
  | sqlite | postgresql | cockroachdb | mysql | oracle =>
      exact ⟨_, _, rfl, rfl⟩

namespace Build

open Recorded Inquiry Comparison

theorem find?_byNativeName_iff {relations : List Relation}
    (distinct : (relations.map Relation.nativeName).Nodup) {name : String}
    {relation : Relation} :
    (byNativeName relations).find? name = some relation ↔
      relation ∈ relations ∧ relation.nativeName = name := by
  rw [byNativeName_eq_foldl, NameMap.find?_foldl_insert, NameMap.find?_empty,
    Option.or_none, NameMap.lookup_eq_some_iff_mem, List.mem_reverse]
  · simp [and_comm]
  · rw [List.map_reverse, List.nodup_reverse, List.map_map]
    exact distinct

/-- A map by native names does not depend on the order in which relations are
put into it, if their names are distinct. -/
theorem byNativeName_eq_of_perm {relations others : List Relation}
    (perm : relations.Perm others)
    (distinct : (relations.map Relation.nativeName).Nodup) :
    byNativeName relations = byNativeName others := by
  have otherDistinct : (others.map Relation.nativeName).Nodup :=
    (perm.map _).nodup_iff.mp distinct
  apply NameMap.eq_of_find?_eq
  intro name
  apply Option.ext
  intro relation
  rw [find?_byNativeName_iff distinct, find?_byNativeName_iff otherDistinct,
    perm.mem_iff]

section Relations

variable {adapter : Adapter} {options : Options} {schema : String}
  {kind : RelationKind} {backed otherBacked : List String}

private theorem loadRelations_eq_of_perm (perm : backed.Perm otherBacked) :
    loadRelations adapter options schema backed kind =
      loadRelations adapter options schema otherBacked kind := by
  have sameFlag : ∀ name, backed.contains name = otherBacked.contains name := by
    intro name
    rw [Bool.eq_iff_iff, List.contains_iff_mem, List.contains_iff_mem,
      perm.mem_iff]
  simp only [loadRelations, relationOf, sameFlag]

end Relations

/-- The columns of an index are found by their ids in any order of the
listing. -/
theorem orderFields_eq_of_perm {columns others : List IndexColumnRecord}
    (perm : columns.Perm others)
    (distinct : (columns.map IndexColumnRecord.columnId).Nodup)
    (schema : String) (relation : Relation) (index order : String) :
    orderFields schema relation index columns order =
      orderFields schema relation index others order := by
  have sameColumn : ∀ columnId : Int,
      (columns.find? fun column => column.columnId == columnId) =
        others.find? fun column => column.columnId == columnId := by
    intro columnId
    apply List.find?_eq_find?_of_perm perm
    rintro column ⟨isColumn, sameId⟩ other ⟨isOther, otherId⟩
    apply List.inj_on_of_nodup_map distinct isColumn isOther
    rw [eq_of_beq sameId, eq_of_beq otherId]
  have sameField : ∀ qualifiedName,
      fieldOfOrdinal qualifiedName relation index columns =
        fieldOfOrdinal qualifiedName relation index others := by
    intro qualifiedName
    funext ordinal
    simp only [fieldOfOrdinal, sameColumn]
  simp only [orderFields, sameField]

section Reordered

variable {engine : Engine} {options : Options} {schema : String}
  {replies otherReplies :
    CatalogQuery → List String → Except DriverError (List Row)}
  {execution otherExecution : String → Except DriverError Unit}
  (same : SameButOrder replies otherReplies)

include same

theorem relates_of_isOrdered {α : Type} {inquiry : Inquiry α}
    (reads : inquiry.Reads engine Topic.IsOrdered) :
    lenient.Relates (.scripted replies execution)
      (.scripted otherReplies otherExecution) Eq inquiry inquiry := by
  apply SameAnswers.relates _ reads
  intro _ _ _ query parameters isOrdered
  exact same.others isOrdered parameters

theorem relates_tables (word : String) :
    lenient.Relates (.scripted replies execution)
      (.scripted otherReplies otherExecution)
      (fun tables others => tables.Perm others ∧
        (tables.map TableRecord.name).Nodup)
      ((Adapter.builtin engine).tables schema word)
      ((Adapter.builtin engine).tables schema word) := by
  have lists := Adapter.lists_tables engine schema word
  generalize (Adapter.builtin engine).tables schema word = inquiry at lists ⊢
  cases lists with
  | rows parameters about _ named =>
      apply (relates_listOf_of_reordered _ (same.tables about parameters)).mono
      rintro tables others ⟨perm, rows, distinct, run⟩
      exact ⟨perm, nodup_map_of_distinctBy distinct named run⟩

theorem relates_loadRelations {backed otherBacked : List String}
    (perm : backed.Perm otherBacked) (kind : RelationKind) :
    lenient.Relates (.scripted replies execution)
      (.scripted otherReplies otherExecution)
      (NameMap.Alike (Relation.Alike Eq))
      (loadRelations (Adapter.builtin engine) options schema backed kind)
      (loadRelations (Adapter.builtin engine) options schema otherBacked
        kind) := by
  rw [← loadRelations_eq_of_perm perm]
  apply (relates_tables same _).bind
  rintro tables others ⟨permTables, distinct⟩
  have reads : ∀ table : TableRecord, Reads engine Topic.IsOrdered (do
      let columns ← (Adapter.builtin engine).columns schema table.name
      return relationOf (Adapter.builtin engine) options schema kind backed
        table
        columns) := by
    intro table
    exact ((Adapter.lists_columns engine _ _).reads (by decide) rfl).bind
      fun _ => .pure _
  apply (relates_mapM_of_perm reads same.others (permTables.filter _)).bind
  rintro relations more ⟨permRelations, each⟩
  have names : relations.map Relation.nativeName =
      (tables.filter fun table =>
        !options.ignoresTable table.name).map TableRecord.name := by
    symm
    apply map_eq_map_of_forall₂ each
    intro table relation returns
    obtain ⟨columns, _, returns⟩ := returns_of_bind returns
    rw [eq_of_returns_pure returns, nativeName_relationOf]
  rw [byNativeName_eq_of_perm permRelations]
  · exact .pure (.refl (fun _ => ⟨rfl, rfl⟩) _)
  · rw [names]
    exact distinct.sublist (List.filter_sublist.map _)

theorem relates_loadIndex (relation : Relation) (record : IndexRecord) :
    lenient.Relates (.scripted replies execution)
      (.scripted otherReplies otherExecution) Eq
      (loadIndex (Adapter.builtin engine) options schema relation record)
      (loadIndex (Adapter.builtin engine) options schema relation record) := by
  obtain ⟨query, parameters, about, listed⟩ :=
    Adapter.exists_indexColumns_eq_listOf engine schema relation.nativeName
      record.name
  unfold loadIndex
  rw [listed]
  apply (relates_listOf_of_reordered _
    (same.indexColumns about parameters)).bind
  rintro columns others ⟨perm, rows, distinct, run⟩
  have distinctIds :=
    nodup_map_of_distinctBy distinct IndexColumnRecord.columnId_of_ofRow run
  apply (relates_of_isOrdered same
    (Adapter.reads_indexOrder engine (by decide) _ _ _)).bind_eq
  intro order
  rw [orderFields_eq_of_perm perm distinctIds]
  apply (Relates.ofExcept (.same _)).bind_eq
  intro fields
  exact .pure rfl

theorem perm_reported (kind : Probe) :
    (engine.reported replies kind schema).Perm
      (engine.reported otherReplies kind schema) := by
  rw [Engine.reported, Engine.reported]
  cases probed : engine.probe? kind schema with
  | none => exact .refl _
  | some probe =>
      obtain ⟨query, parameters⟩ := probe
      have isProbe : query.topic.probe? ≠ none := by
        rw [Engine.topic_of_probe? probed]
        exact Option.some_ne_none _
      exact perm_namesReported (same.probes isProbe parameters)

/-- The phases of builds over such connections find the same. -/
theorem findAlike_lenient (engine : Engine) (options : Options)
    {here there : Surroundings}
    (scripted : here.connection = .scripted replies execution)
    (otherScripted :
      there.connection = .scripted otherReplies otherExecution) :
    FindAlike lenient Eq List.Perm (Adapter.builtin engine)
      (Adapter.builtin engine) options here there := by
  obtain ⟨_, random⟩ := here
  obtain ⟨_, otherRandom⟩ := there
  subst scripted otherScripted
  constructor
  case schema =>
    exact relates_of_isOrdered same
      (reads_schemaToLoad engine options (by decide))
  case enumerations =>
    intro schema
    exact relates_of_isOrdered same
      (reads_loadEnumerations engine options schema (by decide) (by decide))
  case routines =>
    intro schema
    exact relates_of_isOrdered same (reads_loadRoutines engine options schema
      (by decide) (by decide) (by decide))
  case backed =>
    intro schema
    apply relates_backedTables
    · intro kind _ _ _
      exact perm_reported same kind
    · intro _ _ _ _ perm also
      exact perm.append also
  case relations =>
    intro schema backed otherBacked perm kind
    exact relates_loadRelations same perm kind
  case foreignKeys =>
    intro schema relations owner
    exact relates_of_isOrdered same
      (reads_loadForeignKeys engine schema (by decide) relations owner)
  case indexes =>
    intro schema relation
    apply (relates_of_isOrdered same
      (Adapter.reads_indexes engine (by decide) _ _)).bind_eq
    intro records
    apply (Relates.mapM_eq (relates_loadIndex same relation) records).bind_eq
    intro listed
    exact .pure rfl

end Reordered

end Build

theorem Relation.Alike.eq {left right : Relation}
    (alike : left.Alike Eq right) : left = right := by
  have others := alike.others
  rwa [← alike.flags] at others

theorem Graph.Alike.sameButKeys {left right : Graph}
    (alike : left.Alike Eq right) (sameEngine : left.engine = right.engine) :
    left.SameButKeys right where
  others := by
    have sameRelations : left.relations = right.relations :=
      NameMap.eq_of_alike (alike.relations.mono fun _ _ alike => alike.eq)
    have others := alike.others
    rwa [← sameEngine, ← sameRelations] at others
  places := alike.places

namespace GraphBuilder

open Build

/-- Whether a build succeeds, and to which graph it leads but for the keys of
the foreign keys, does not depend on the order of listings. -/
theorem sameButKeys_of_sameButOrder {engine : Engine} {builder : GraphBuilder}
    (known : builder.adapter = Adapter.builtin engine)
    {replies otherReplies :
      CatalogQuery → List String → Except DriverError (List Row)}
    (same : SameButOrder replies otherReplies)
    {execution otherExecution : String → Except DriverError Unit}
    {here there : Surroundings}
    (scripted : here.connection = .scripted replies execution)
    (otherScripted :
      there.connection = .scripted otherReplies otherExecution)
    (ends : SearchEnds (builder.build here).1.outcome)
    (otherEnds : SearchEnds (builder.build there).1.outcome) :
    ((∃ graph, (builder.build here).1.outcome = .ok graph) ↔
        ∃ graph, (builder.build there).1.outcome = .ok graph) ∧
      ∀ graph other, (builder.build here).1.outcome = .ok graph →
        (builder.build there).1.outcome = .ok other →
        graph.SameButKeys other := by
  have find := findAlike_lenient same engine builder.options scripted
    otherScripted
  rw [← known] at find
  have outcomes := (runs_of_findAlike find ends otherEnds).outcome
  refine ⟨outcomes.exists_ok_iff, ?_⟩
  intro graph other built otherBuilt
  rw [built, otherBuilt] at outcomes
  apply outcomes.related_of_ok.sameButKeys
  exact (engine_of_build built).trans (engine_of_build otherBuilt).symm

/-- The catalog of a quay, which lists in the given order. -/
def quayReplies (order : List Row → List Row) (query : CatalogQuery)
    (parameters : List String) : Except DriverError (List Row) :=
  match query.topic with
  | .tables =>
    if parameters = ["table"] then
      .ok (order [⟨[.text "ship"]⟩, ⟨[.text "berth"]⟩])
    else .ok []
  | .sequences => .ok (order [⟨[.text "ship"]⟩, ⟨[.text "crew"]⟩])
  | .columns =>
    .ok [
      ⟨[.int 1, .text "id", .text "integer", .bool true, .null, .bool true]⟩,
      ⟨[.int 2, .text "name", .text "text", .bool true, .null, .bool false]⟩]
  | .indexes => .ok [⟨[.text "label", .bool true, .text "c"]⟩]
  | .indexColumns =>
    .ok (order [⟨[.int 0, .int 0, .text "id"]⟩,
      ⟨[.int 1, .int 1, .text "name"]⟩])
  | .indexOrder => .ok [⟨[.text "1 0"]⟩]
  | _ => .ok []

theorem sameButOrder_quay :
    SameButOrder (quayReplies id) (quayReplies List.reverse) where
  tables := by
    rintro ⟨topic, sql⟩ rfl parameters
    show Reordered _ (if parameters = ["table"] then _ else _)
      (if parameters = ["table"] then _ else _)
    split
    · refine .rows (List.reverse_perm _).symm (.cons ?_ (.cons nofun .nil))
      intro other isOther value read
      rw [List.mem_singleton.mp isOther]
      cases read
      decide
    · exact .rows (.refl _) .nil
  indexColumns := by
    rintro ⟨topic, sql⟩ rfl parameters
    refine .rows (List.reverse_perm _).symm (.cons ?_ (.cons nofun .nil))
    intro other isOther value read
    rw [List.mem_singleton.mp isOther]
    cases read
    decide
  probes := by
    rintro ⟨topic, sql⟩ isProbe parameters
    cases topic with
    | sequences => exact .rows (List.reverse_perm _).symm trivial
    | rowidTables | identityTables | autoIncrement =>
        exact .rows (.refl _) trivial
    | _ => exact absurd rfl isProbe
  others := by
    rintro ⟨topic, sql⟩ isOrdered parameters
    cases topic with
    | tables => exact absurd rfl isOrdered.1
    | indexColumns => exact absurd rfl isOrdered.2.1
    | sequences => nomatch isOrdered.2.2
    | _ => rfl

def quay (order : List Row → List Row) : Surroundings where
  connection := .scripted (quayReplies order) fun _ => .ok ()
  random := ⟨fun _ => 0, 1⟩

theorem sameButKeys_quay :
    ∃ graph other,
      ((new (.builtin .sqlite) .standard).build (quay id)).1.outcome =
        .ok graph ∧
      ((new (.builtin .sqlite) .standard).build
        (quay List.reverse)).1.outcome = .ok other ∧
      graph.relations.values.map (fun relation =>
        (relation.nativeName, relation.manualPrimaryKey)) =
        [("berth", true), ("ship", false)] ∧
      graph.relations.values.flatMap (fun relation =>
        relation.indexes.map Index.fields) = [[1, 0], [0], [1, 0], [0]] ∧
      graph.SameButKeys other := by
  obtain ⟨graph, built, seen⟩ := exists_ok_of_view
    (show (((new (.builtin .sqlite) .standard).build
        (quay id)).1.outcome.toOption.map fun graph =>
          (graph.relations.values.map fun relation =>
            (relation.nativeName, relation.manualPrimaryKey),
          graph.relations.values.flatMap fun relation =>
            relation.indexes.map Index.fields)) =
      some ([("berth", true), ("ship", false)], [[1, 0], [0], [1, 0], [0]]) by
        decide)
  obtain ⟨other, otherBuilt, _⟩ := exists_ok_of_view
    (show (((new (.builtin .sqlite) .standard).build
        (quay List.reverse)).1.outcome.toOption.map fun graph =>
          graph.relations.keys) = some ["berth", "ship"] by decide)
  have known : (new (.builtin .sqlite) .standard).adapter =
      .builtin .sqlite := rfl
  have scripted : (quay id).connection = .scripted (quayReplies id)
      fun _ => .ok () := rfl
  have otherScripted : (quay List.reverse).connection =
      .scripted (quayReplies List.reverse) fun _ => .ok () := rfl
  obtain ⟨_, sameButKeys⟩ := sameButKeys_of_sameButOrder known
    sameButOrder_quay scripted otherScripted (built ▸ .ok graph)
    (otherBuilt ▸ .ok other)
  obtain ⟨names, fields⟩ := Prod.mk.inj seen
  exact ⟨graph, other, built, otherBuilt, names, fields,
    sameButKeys graph other built otherBuilt⟩

end GraphBuilder

end SchemaAtlas
