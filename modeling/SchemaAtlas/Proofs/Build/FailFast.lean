import SchemaAtlas.Proofs.Adapter.Inquiries
import SchemaAtlas.Proofs.Build.Places
import SchemaAtlas.Proofs.Exchange.Heeding

/-!
# Builds that fail fast

A build ends with the first answer at fault, and the error of the answer is its
outcome.  The two probes are the exception: each of them that is at fault is
told in one warning, and the tables are asked for all the same.
-/

namespace SchemaAtlas

namespace Build

open Recorded Session

variable {engine : Engine} {options : Options} {schema : String}

/-- A probe succeeds whatever the answer to it, and tells of a failure. -/
theorem probe_apply (kind : Probe) (schema : String)
    (inquiry : Inquiry (List String)) (surroundings : Surroundings)
    (before : Journal) :
    probe kind schema inquiry surroundings before =
      match inquiry surroundings.connection before.requests with
      | (.ok names, asked) => (.ok names, .ofRequests asked)
      | (.error cause, asked) =>
        (.ok [], ⟨asked, [.probeFailed kind cause schema], 0, none⟩) := by
  cases run : inquiry surroundings.connection before.requests with
  | mk outcome asked =>
      have attempted : (Session.ask inquiry).attempt surroundings before =
          (.ok outcome, .ofRequests asked) := by
        rw [attempt, ask_apply, run]
      rw [probe, bind_of_ok attempted]
      cases outcome with
      | error cause =>
          show (Except.ok [], Record.append (Journal.ofRequests asked)
            ⟨[] ++ [], [.probeFailed kind cause schema] ++ [], 0, none⟩) = _
          simp [Record.append, Journal.append, Journal.ofRequests]
      | ok names =>
          show (Except.ok names,
            Record.append (Journal.ofRequests asked) Journal.none) = _
          exact congrArg _ (Record.append_none _)

private theorem exists_probe_eq_ok (kind : Probe) (schema : String)
    (inquiry : Inquiry (List String)) (surroundings : Surroundings)
    (before : Journal) :
    ∃ names made,
      probe kind schema inquiry surroundings before = (.ok names, made) := by
  rw [probe_apply]
  split
  · exact ⟨_, _, rfl⟩
  · exact ⟨_, _, rfl⟩

theorem heeds_probe {kind : Probe} {inquiry : Inquiry (List String)}
    (probes : inquiry.Probes engine kind) (schema : String) :
    (probe kind schema inquiry).Heeds engine := by
  intro surroundings before
  rw [probe_apply]
  cases probes with
  | unasked => exact ⟨.nil _, rfl⟩
  | asked parameters isProbe readBy =>
      rename_i query use
      have fault := readBy
        (surroundings.connection.query before.requests query parameters)
      have asksProbe : (Request.query query parameters).probe? = some kind :=
        isProbe
      have told := surroundings.connection.failedProbes_singleton engine
        before.requests asksProbe
      rw [Connection.fault?, ← fault] at told
      rw [Inquiry.asking]
      generalize surroundings.connection.query before.requests query
        parameters >>= use = outcome at told
      cases outcome with
      | error cause => exact ⟨.singleton asksProbe _, told.symm⟩
      | ok names => exact ⟨.singleton asksProbe _, told.symm⟩

theorem heeds_backedTables (engine : Engine) (schema : String) :
    (backedTables (Adapter.builtin engine) schema).Heeds engine := by
  unfold backedTables
  refine (heeds_probe (Adapter.probes_sequenceTables engine schema)
    schema).bind fun sequences => ?_
  refine (heeds_probe (Adapter.probes_autoIncrementTables engine schema)
    schema).bind fun counters => ?_
  exact (Plain.pure _).heeds

private theorem exists_backedTables_eq_ok (adapter : Adapter) (schema : String)
    (surroundings : Surroundings) (before : Journal) :
    ∃ backed made,
      backedTables adapter schema surroundings before = (.ok backed, made) := by
  obtain ⟨sequences, _, first⟩ := exists_probe_eq_ok .sequence schema
    (adapter.sequenceTables schema) surroundings before
  obtain ⟨counters, _, second⟩ := exists_probe_eq_ok .autoIncrement schema
    (adapter.autoIncrementTables schema) surroundings _
  rw [backedTables, bind_of_ok first, bind_of_ok second]
  exact ⟨_, _, rfl⟩

/-- After the probes a session goes on with what it asks next. -/
theorem failsFast_backedTables_bind {α : Type} {next : List String → Session α}
    (plain : ∀ backed, (next backed).Plain engine)
    (asks : ∀ backed surroundings before,
      (next backed surroundings before).2.requests ≠ []) :
    (backedTables (Adapter.builtin engine) schema >>= next).FailsFast
      engine where
  heeds := (heeds_backedTables engine schema).bind fun backed =>
    (plain backed).heeds
  goesOn := by
    intro surroundings before front request shape
    obtain ⟨backed, made, run⟩ := exists_backedTables_eq_ok
      (Adapter.builtin engine) schema surroundings before
    rw [bind_of_ok run, Journal.requests_append] at shape
    obtain ⟨others, last, asked⟩ := (List.eq_nil_or_concat' _).resolve_left
      (asks backed surroundings (Record.append before made))
    rw [asked, ← List.append_assoc] at shape
    cases (List.append_inj' shape rfl).2
    exact (plain backed).goesOn _ _ _ _ asked

theorem plain_mergeViews (tables : NameMap Relation)
    (views : List (String × Relation)) :
    (mergeViews tables views).Plain engine := by
  induction views generalizing tables with
  | nil => exact .pure tables
  | cons view rest ih =>
      obtain ⟨name, relation⟩ := view
      rw [mergeViews]
      split
      · exact (Plain.tell rfl).bind fun _ => ih _
      · exact ih _

private theorem asked_loadRelations_ne_nil (engine : Engine) (options : Options)
    (schema : String) (backed : List String) (kind : Catalog.RelationKind)
    (connection : Connection) (before : List Request) :
    (loadRelations (Adapter.builtin engine) options schema backed kind
      connection before).2 ≠ [] := by
  unfold loadRelations
  have asked := (Adapter.lists_tables engine schema
    ((Adapter.builtin engine).relationWord kind)).asked_ne_nil connection before
  obtain ⟨more, shape⟩ := exists_record_bind
    ((Adapter.builtin engine).tables schema
      ((Adapter.builtin engine).relationWord kind)) _ connection before
  rw [shape]
  exact List.append_ne_nil_of_left_ne_nil asked more

theorem failsFast_graph (engine : Engine) (options : Options) :
    (graph (Adapter.builtin engine) options).FailsFast engine := by
  unfold graph
  refine .bind (.ask (reads_schemaToLoad engine options rfl)) fun schema => ?_
  refine .bind (.ask (reads_loadEnumerations engine options schema rfl rfl))
    fun enumerations => ?_
  refine .bind (.reach _ _) fun _ => ?_
  refine .bind (.ask (reads_loadRoutines engine options schema rfl rfl rfl))
    fun routines => ?_
  refine .bind (.reach _ _) fun _ => ?_
  have loads : ∀ backed kind,
      (Session.ask (loadRelations (Adapter.builtin engine) options schema backed
        kind)).Plain engine := by
    intro backed kind
    apply Plain.ask
    apply reads_loadRelations
    · rfl
    · rfl
  apply failsFast_backedTables_bind
  case plain =>
    intro backed
    refine (loads backed .table).bind fun tables => ?_
    refine (Plain.reach _ _).bind fun _ => ?_
    refine (loads backed .view).bind fun views => ?_
    refine (Plain.reach _ _).bind fun _ => ?_
    refine (plain_mergeViews tables _).bind fun relations => ?_
    refine (Plain.reach _ _).bind fun _ => ?_
    refine .bind (.ask (reads_resolveForeignKeys engine options schema (by rfl)
      relations)) fun owned => ?_
    refine (Plain.of_searches (searches_registerPlaces _ _)).bind
      fun foreignKeys => ?_
    refine (Plain.reach _ _).bind fun _ => ?_
    refine .bind (.ask (reads_resolveIndexes engine options schema (by rfl)
      (by rfl) (by rfl) _)) fun ownedIndexes => ?_
    refine (Plain.reach _ _).bind fun _ => ?_
    refine (Plain.reach _ _).bind fun _ => ?_
    exact .pure _
  case asks =>
    intro backed surroundings before
    obtain ⟨more, shape⟩ := exists_record_bind
      (Session.ask (loadRelations (Adapter.builtin engine) options schema backed
        .table)) _ surroundings before
    rw [shape]
    exact List.append_ne_nil_of_left_ne_nil
      (asked_loadRelations_ne_nil engine options schema backed .table _ _) _

end Build

/-- A build asked queries only and ended with the first answer at fault, whose
error was the outcome.  Of the probes it told those at fault, in one warning
each, and asked on. -/
structure BuildReport.FailsFast (engine : Engine) (connection : Connection)
    (report : BuildReport) : Prop where
  isQuery : ∀ request ∈ report.journal.requests, request.IsQuery
  endsAtFault : ∀ {front request rest cause},
    report.journal.requests = front ++ request :: rest →
    request.probe? = none →
    connection.fault? engine front request = some cause →
      rest = [] ∧ report.outcome = .error (.driver cause)
  goesOn : ∀ {front request},
    report.journal.requests = front ++ [request] → request.probe? = none
  tellsProbes : report.journal.events.filterMap Event.failedProbe? =
    connection.failedProbes engine [] report.journal.requests
  warns : ∀ event ∈ report.journal.events, event.failedProbe? ≠ none →
    event.level = "warn"

namespace GraphBuilder

/-- Every build fails fast. -/
theorem failsFast_of_build {engine : Engine} {builder : GraphBuilder}
    (known : builder.adapter = Adapter.builtin engine)
    (surroundings : Surroundings) :
    (builder.build surroundings).1.FailsFast engine
      surroundings.connection := by
  have failsFast := Build.failsFast_graph engine builder.options
  rw [← known] at failsFast
  have heeds := failsFast.heeds surroundings Journal.none
  exact {
    isQuery := heeds.endsAtFault.isQuery
    endsAtFault := heeds.endsAtFault.ends
    goesOn := failsFast.goesOn surroundings Journal.none _ _
    tellsProbes := heeds.tellsProbes
    warns := by
      intro event _ tells
      cases event with
      | probeFailed => rfl
      | _ => exact (tells rfl).elim }

/-- The catalog of an archive: its sequences cannot be listed, and of the
columns of its only table the second is not reported in full. -/
def archiveReplies (query : CatalogQuery) (_ : List String) :
    Except DriverError (List Catalog.Row) :=
  match query.topic with
  | .sequences => .error (.failure "locked")
  | .tables => .ok [⟨[.text "record"]⟩]
  | .columns =>
    .ok [
      ⟨[.int 1, .text "id", .text "integer", .bool true, .null, .bool true]⟩,
      ⟨[.int 2]⟩, ⟨[]⟩]
  | _ => .ok []

def archive : Surroundings where
  connection := .scripted archiveReplies fun _ => .ok ()
  random := ⟨fun _ => 0, 1⟩

theorem failsFast_archive :
    ((new (.builtin .sqlite) .standard).build archive).1.outcome =
        .error (.driver (.missingColumn 1 1)) ∧
      ((new (.builtin .sqlite) .standard).build
          archive).1.journal.events.filterMap Event.failedProbe? =
        [(.sequence, .driver (.failure "locked"))] := by
  have failsFast := failsFast_of_build
    (show (new (.builtin .sqlite) .standard).adapter =
      .builtin .sqlite from rfl)
    archive
  have asked : ((new (.builtin .sqlite) .standard).build
        archive).1.journal.requests =
      [.query Sqlite.Queries.sequences [], .query Sqlite.Queries.rowidTables [],
        .query Sqlite.Queries.tables ["table"]] ++
        [.query Sqlite.Queries.columns ["record"]] := rfl
  constructor
  · exact (failsFast.endsAtFault asked rfl (by decide)).2
  · rw [failsFast.tellsProbes, asked]
    decide

end GraphBuilder

end SchemaAtlas
