import SchemaAtlas.Proofs.Adapter.Inquiries
import SchemaAtlas.Proofs.Build.TwoBuilds

/-!
# Leaving out is absence

Options can name tables and columns to leave out.  A build with such options
does what a build without them does over a connection that never reports the
named tables and columns: it asks the same, reaches the same phases and leads to
the same graph, or to the same error where something else mentions what is left
out.

The rows that are left out have to be readable.  A build reads them before it
drops them, so a row that cannot be read is an error even if it is of something
that is left out.
-/

namespace SchemaAtlas

open Catalog

namespace Options

/-- The options of a build that leaves nothing out. -/
def ignoringNothing (options : Options) : Options :=
  { options with ignoredTables := [], ignoredFields := [] }

/-- Whether a row about a topic is that of a table or column to leave out. -/
def leavesOut (options : Options) : Topic → Row → Bool
  | .tables, row => (row.text 0).toOption.any (Names options.ignoredTables ·)
  | .columns, row => (row.text 1).toOption.any (Names options.ignoredFields ·)
  | _, _ => false

end Options

/-- Answers about a topic are complete whatever is left out. -/
def Topic.IsComplete (topic : Topic) : Prop :=
  topic ≠ .tables ∧ topic ≠ .columns

private theorem Topic.isComplete_of_probe? {topic : Topic} {probe : Probe}
    (isProbe : topic.probe? = some probe) : topic.IsComplete := by
  constructor
  · rintro rfl
    cases isProbe
  · rintro rfl
    cases isProbe

namespace Connection

/-- A connection that does not report the tables and columns to leave out. -/
def without (connection : Connection) (options : Options) : Connection where
  query before query parameters :=
    (connection.query before query parameters).map fun rows =>
      rows.filter fun row => !options.leavesOut query.topic row
  execute := connection.execute

/-- Every row that a connection reports about tables and columns can be read. -/
def ReportsInFull (connection : Connection) (engine : Engine) : Prop :=
  ∀ before query parameters rows,
    connection.query before query parameters = .ok rows →
      query.topic = .tables ∨ query.topic = .columns →
        ∀ row ∈ rows, query.topic.rowFault? engine row = none

theorem query_without (connection : Connection) (options : Options)
    (before : List Request) (query : CatalogQuery) (parameters : List String) :
    (connection.without options).query before query parameters =
      (connection.query before query parameters).map (List.filter fun row =>
        !options.leavesOut query.topic row) := rfl

private theorem query_without_of_complete {query : CatalogQuery}
    (complete : query.topic.IsComplete) (connection : Connection)
    (options : Options) (before : List Request) (parameters : List String) :
    connection.query before query parameters =
      (connection.without options).query before query parameters := by
  have keepsAll : ∀ row, options.leavesOut query.topic row = false := by
    intro row
    unfold Options.leavesOut
    split
    · exact absurd ‹_› complete.1
    · exact absurd ‹_› complete.2
    · rfl
  rw [query_without]
  cases connection.query before query parameters with
  | error cause => rfl
  | ok rows =>
      have keepsEveryRow : ∀ row ∈ rows,
          (!options.leavesOut query.topic row) = true := by
        intro row _
        rw [keepsAll, Bool.not_false]
      rw [Except.map, List.filter_eq_self.mpr keepsEveryRow]

end Connection

/-- Rows that are kept by what is read of them can be filtered before or after
the reading. -/
theorem mapM_filter {ε α β : Type} {read : α → Except ε β} {rows : List α}
    {keepRow : α → Bool} {keep : β → Bool}
    (readable : ∀ row ∈ rows, ∃ record,
      read row = .ok record ∧ keepRow row = keep record) :
    (rows.filter keepRow).mapM read =
      (rows.mapM read).map (List.filter keep) := by
  induction rows with
  | nil => rfl
  | cons row rest ih =>
      obtain ⟨⟨record, first, same⟩, others⟩ := List.forall_mem_cons.mp readable
      rw [List.filter_cons, List.mapM_cons, first]
      cases kept : keepRow row with
      | false =>
          rw [kept] at same
          rw [if_neg Bool.false_ne_true, ih others]
          cases rest.mapM read with
          | error cause => rfl
          | ok records =>
              show Except.ok (records.filter keep) =
                .ok ((record :: records).filter keep)
              rw [List.filter_cons, ← same, if_neg Bool.false_ne_true]
      | true =>
          rw [kept] at same
          rw [if_pos rfl, List.mapM_cons, first, ih others]
          cases rest.mapM read with
          | error cause => rfl
          | ok records =>
              show Except.ok (record :: records.filter keep) =
                .ok ((record :: records).filter keep)
              rw [List.filter_cons, ← same, if_pos rfl]

theorem Inquiry.Reads.apply_without {engine : Engine} {α : Type}
    {inquiry : Inquiry α} (reads : inquiry.Reads engine Topic.IsComplete)
    (connection : Connection) (options : Options) (before : List Request) :
    inquiry connection before =
      inquiry (connection.without options) before := by
  apply reads.congr
  intro history query parameters complete
  exact Connection.query_without_of_complete complete connection options history
    parameters

theorem Inquiry.Lists.apply_without {engine : Engine} {topic : Topic}
    {column : Nat} {α : Type} {name : α → String} {inquiry : Inquiry (List α)}
    (lists : inquiry.Lists engine topic column name) {connection : Connection}
    (reportsInFull : connection.ReportsInFull engine) {options : Options}
    (ignores : String → Bool)
    (isReported : topic = .tables ∨ topic = .columns)
    (leavesOut : ∀ row, options.leavesOut topic row =
      (row.text column).toOption.any ignores)
    (before : List Request) :
    inquiry (connection.without options) before =
      ((inquiry connection before).1.map
        (List.filter fun record => !ignores (name record)),
        (inquiry connection before).2) := by
  cases lists with
  | rows parameters about readsRow named =>
      rename_i query read
      subst about
      rw [listOf_eq_asking, asking, asking, Connection.query_without]
      cases answer : connection.query before query parameters with
      | error cause => rfl
      | ok rows =>
          have readable : ∀ row ∈ rows, ∃ record, read row = .ok record ∧
              (!options.leavesOut query.topic row) =
                !ignores (name record) := by
            intro row membership
            have noFault := reportsInFull before query parameters rows answer
              isReported row membership
            rw [← readsRow] at noFault
            -- A row at fault would end the build that leaves it out, too.
            cases reading : read row with
            | error cause => rw [reading] at noFault; cases noFault
            | ok record =>
                refine ⟨record, rfl, ?_⟩
                rw [leavesOut, named reading]
                rfl
          show (liftDriver ((rows.filter _).mapM read), _) =
            ((liftDriver (rows.mapM read)).map _, _)
          rw [mapM_filter readable]
          cases rows.mapM read <;> rfl

namespace Build

open Recorded

variable {engine : Engine} {options : Options} {connection : Connection}

/-- The columns that are left out of a relation may as well be missing. -/
theorem relationOf_ignoringNothing (adapter : Adapter) (options : Options)
    (schema : String) (kind : RelationKind) (backed : List String)
    (table : TableRecord) (columns : List ColumnRecord) :
    relationOf adapter options.ignoringNothing schema kind backed table
        (columns.filter fun column => !options.ignoresField column.name) =
      relationOf adapter options schema kind backed table columns := by
  have leavesNothingOut : ∀ name,
      options.ignoringNothing.ignoresField name = false := fun _ => rfl
  simp only [relationOf, leavesNothingOut, Bool.not_false, List.filter_true]
  rfl

theorem loadRelations_without (reportsInFull : connection.ReportsInFull engine)
    (options : Options) (schema : String) (backed : List String)
    (kind : RelationKind) (before : List Request) :
    loadRelations (Adapter.builtin engine) options schema backed kind connection
        before =
      loadRelations (Adapter.builtin engine) options.ignoringNothing schema
        backed kind (connection.without options) before := by
  have leavesNothingOut : ∀ tables : List TableRecord,
      (tables.filter fun table =>
        !options.ignoringNothing.ignoresTable table.name) = tables :=
    fun tables => List.filter_eq_self.mpr fun _ _ => rfl
  have leavesOutTable : ∀ row : Row, options.leavesOut .tables row =
      (row.text 0).toOption.any options.ignoresTable := by
    intro row
    rw [options.ignoresTable_eq]
    rfl
  have leavesOutField : ∀ row : Row, options.leavesOut .columns row =
      (row.text 1).toOption.any options.ignoresField := by
    intro row
    rw [options.ignoresField_eq]
    rfl
  apply bind_congr_map ((Adapter.lists_tables engine _ _).apply_without
    reportsInFull options.ignoresTable (.inl rfl) leavesOutTable before)
  intro tables asked
  -- From here on both builds ask for the columns of the same tables.
  apply Recorded.bind_congr
  · rw [leavesNothingOut]
    apply mapM_congr
    intro table before
    apply bind_congr_map ((Adapter.lists_columns engine _ _).apply_without
      reportsInFull options.ignoresField (.inr rfl) leavesOutField before)
    intro columns asked
    rw [relationOf_ignoringNothing]
    rfl
  · intro relations asked
    rfl

theorem findTheSame_without (reportsInFull : connection.ReportsInFull engine)
    (options : Options) :
    FindTheSame (Adapter.builtin engine) options options.ignoringNothing
      connection (connection.without options) where
  schema := by
    apply (reads_schemaToLoad engine options ?_).apply_without
    exact ⟨nofun, nofun⟩
  enumerations := by
    intro schema
    apply (reads_loadEnumerations engine options schema ?_ ?_).apply_without
    all_goals exact ⟨nofun, nofun⟩
  routines := by
    intro schema
    apply (reads_loadRoutines engine options schema ?_ ?_ ?_).apply_without
    all_goals exact ⟨nofun, nofun⟩
  sequences := by
    intro schema
    apply ((Adapter.probes_sequenceTables engine schema).reads ?_).apply_without
    intro topic isProbe
    exact Topic.isComplete_of_probe? isProbe
  counters := by
    intro schema
    apply ((Adapter.probes_autoIncrementTables engine schema).reads
      ?_).apply_without
    intro topic isProbe
    exact Topic.isComplete_of_probe? isProbe
  relations := loadRelations_without reportsInFull options
  foreignKeys := by
    intro schema relations
    apply (reads_resolveForeignKeys engine options schema ?_
      relations).apply_without
    exact ⟨nofun, nofun⟩
  indexes := by
    intro schema relations
    apply (reads_resolveIndexes engine options schema ?_ ?_ ?_
      relations).apply_without
    all_goals exact ⟨nofun, nofun⟩

end Build

namespace GraphBuilder

def ignoringNothing (builder : GraphBuilder) : GraphBuilder :=
  { builder with options := builder.options.ignoringNothing }

/-- A build that leaves out tables and columns leads to the same, but for the
keys of the foreign keys, as one that leaves nothing out over a connection that
does not report them. -/
theorem sameButKeys_ignoringNothing {engine : Engine} {builder : GraphBuilder}
    (known : builder.adapter = Adapter.builtin engine)
    {connection : Connection} (reportsInFull : connection.ReportsInFull engine)
    (random otherRandom : RandomSource)
    (ends : SearchEnds (builder.build ⟨connection, random⟩).1.outcome)
    (otherEnds : SearchEnds (builder.ignoringNothing.build
      ⟨connection.without builder.options, otherRandom⟩).1.outcome) :
    (builder.build ⟨connection, random⟩).1.SameButKeys
      (builder.ignoringNothing.build
        ⟨connection.without builder.options, otherRandom⟩).1 := by
  have same := Build.findTheSame_without reportsInFull builder.options
  rw [← known] at same
  have sameAdapter : builder.adapter = builder.ignoringNothing.adapter := rfl
  exact sameButKeys_of_findTheSame sameAdapter same ends otherEnds

/-- The catalog of a shelf: its tables have foreign keys to the authors. -/
def shelfReplies (query : CatalogQuery) (_ : List String) :
    Except DriverError (List Row) :=
  match query.topic with
  | .tables => .ok [⟨[.text "book"]⟩, ⟨[.text "author"]⟩]
  | .columns =>
    .ok [
      ⟨[.int 1, .text "id", .text "integer", .bool true, .null, .bool true]⟩,
      ⟨[.int 2, .text "note", .text "text", .bool false, .null, .bool false]⟩,
      ⟨[.int 3, .text "author_id", .text "integer", .bool true, .null,
        .bool false]⟩]
  | .foreignKeys =>
    .ok [⟨[.text "author_id", .text "author", .null, .null, .null]⟩]
  | _ => .ok []

def shelf : Connection :=
  .scripted shelfReplies fun _ => .ok ()

theorem reportsInFull_shelf : shelf.ReportsInFull .sqlite := by
  rintro before ⟨topic, sql⟩ parameters rows answer (rfl | rfl)
  · cases answer
    show ∀ row ∈ _, Topic.tables.rowFault? .sqlite row = none
    decide
  · cases answer
    show ∀ row ∈ _, Topic.columns.rowFault? .sqlite row = none
    decide

def withoutAuthors : GraphBuilder :=
  new (.builtin .sqlite) { Options.standard with ignoredTables := ["AUTHOR"] }

def withoutNotes : GraphBuilder :=
  new (.builtin .sqlite) { Options.standard with ignoredFields := ["Note"] }

/-- The foreign key of the books leads to nothing, whether the authors are left
out or not reported.  Notes are in no table, whether left out or not
reported. -/
theorem sameButKeys_withoutAuthors :
    (withoutAuthors.build ⟨shelf, ⟨fun _ => 0, 1⟩⟩).1.outcome =
        .error (.foreignKey "main.book" "book_author_id_fkey"
          (.referencedRelation "author")) ∧
      (withoutAuthors.build ⟨shelf, ⟨fun _ => 0, 1⟩⟩).1.SameButKeys
        (withoutAuthors.ignoringNothing.build
          ⟨shelf.without withoutAuthors.options, ⟨fun _ => 7, 2⟩⟩).1 ∧
      ∃ graph other,
        (withoutNotes.build ⟨shelf, ⟨fun _ => 0, 1⟩⟩).1.outcome = .ok graph ∧
        (withoutNotes.ignoringNothing.build
          ⟨shelf.without withoutNotes.options, ⟨fun _ => 7, 2⟩⟩).1.outcome =
          .ok other ∧
        graph.relations.values.map (·.fields.map Field.name) =
          [["ID", "AuthorID"], ["ID", "AuthorID"]] ∧
        (withoutNotes.build ⟨shelf, ⟨fun _ => 0, 1⟩⟩).1.SameButKeys
          (withoutNotes.ignoringNothing.build
            ⟨shelf.without withoutNotes.options, ⟨fun _ => 7, 2⟩⟩).1 := by
  have fails : (withoutAuthors.build ⟨shelf, ⟨fun _ => 0, 1⟩⟩).1.outcome =
      .error (.foreignKey "main.book" "book_author_id_fkey"
        (.referencedRelation "author")) := rfl
  have otherFails : (withoutAuthors.ignoringNothing.build
      ⟨shelf.without withoutAuthors.options, ⟨fun _ => 7, 2⟩⟩).1.outcome =
      .error (.foreignKey "main.book" "book_author_id_fkey"
        (.referencedRelation "author")) := rfl
  refine ⟨fails, ?_, ?_⟩
  · apply sameButKeys_ignoringNothing rfl reportsInFull_shelf
    · rw [fails]
      intro name same
      cases same
    · rw [otherFails]
      intro name same
      cases same
  · obtain ⟨graph, built, fields⟩ := exists_ok_of_view
      (show ((withoutNotes.build
        ⟨shelf, ⟨fun _ => 0, 1⟩⟩).1.outcome.toOption.map
          fun graph => graph.relations.values.map (·.fields.map Field.name)) =
        some [["ID", "AuthorID"], ["ID", "AuthorID"]] by decide +kernel)
    obtain ⟨other, otherBuilt, _⟩ := exists_ok_of_view
      (show ((withoutNotes.ignoringNothing.build
          ⟨shelf.without withoutNotes.options,
            ⟨fun _ => 7, 2⟩⟩).1.outcome.toOption.map
          fun graph => graph.relations.keys) =
        some ["author", "book"] by decide +kernel)
    refine ⟨graph, other, built, otherBuilt, fields, ?_⟩
    exact sameButKeys_ignoringNothing rfl reportsInFull_shelf _ _
      (built ▸ .ok graph) (otherBuilt ▸ .ok other)

end GraphBuilder

end SchemaAtlas
