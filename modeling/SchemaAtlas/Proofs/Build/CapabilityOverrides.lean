import SchemaAtlas.Proofs.Adapter.Capabilities
import SchemaAtlas.Proofs.Build.Composition
import SchemaAtlas.Proofs.Build.PartRequests

/-!
# Builds with overridden capabilities

What an adapter declares can be overridden flag by flag.  A build without
enumerations or routines does not ask about them and finds none, and a build
without synthesis adds no index.  The phases that come later neither read what
was loaded before them nor depend on what was asked, so a graph loses what is
switched off and nothing else.
-/

namespace SchemaAtlas

open Catalog

namespace Build

open Recorded Inquiry Session

section Offers

private theorem supported_resolveForeignKey (schema : String)
    (relations : NameMap Relation) (relation : Relation)
    (record : ForeignKeyRecord) :
    Supported (resolveForeignKey schema relations relation record) := by
  rw [resolveForeignKey]
  cases resolveNamed relations relation (nameForeignKey relation record) with
  | error miss =>
      intro engine capability failed
      cases failed
  | ok key => exact .ok key

private theorem supported_orderFields (schema : String) (relation : Relation)
    (index : String) (columns : List IndexColumnRecord) (order : String) :
    Supported (orderFields schema relation index columns order) := by
  have ofOrdinal : ∀ qualifiedName ordinal, Supported
      (fieldOfOrdinal qualifiedName relation index columns ordinal) := by
    intro qualifiedName ordinal engine capability
    rw [fieldOfOrdinal]
    grind
  rw [orderFields]
  split
  · intro engine capability failed
    cases failed
  · exact .mapM (ofOrdinal _) _

theorem asks_of_offers {asks : {α : Type} → Inquiry α → Prop}
    (composable : Composable asks) {adapter : Adapter}
    (offers : adapter.Offers asks) (options : Options) :
    Asks asks adapter options := by
  constructor
  case schema =>
    unfold schemaToLoad
    cases options.schema with
    | none => exact offers.schemaName
    | some schema => exact composable.pure schema
  case enumerations =>
    intro schema
    unfold loadEnumerations
    split
    next lists =>
      refine composable.bind (offers.enums lists schema) fun records => ?_
      refine composable.mapM (fun record => ?_) records
      exact composable.bind (offers.enumLabels lists _ _) fun _ =>
        composable.pure _
    next => exact composable.pure []
  case routines =>
    intro schema
    unfold loadRoutines
    split
    next lists =>
      refine composable.bind (offers.routines lists schema) fun records => ?_
      refine composable.mapM (fun record => ?_) records
      exact composable.bind (offers.routineParameters lists _ _) fun _ =>
        composable.pure _
    next => exact composable.pure []
  case sequences => exact offers.sequenceTables
  case counters => exact offers.autoIncrementTables
  case relations =>
    intro schema backed kind
    unfold loadRelations
    refine composable.bind (offers.tables _ _) fun tables => ?_
    refine composable.bind (composable.mapM (fun table => ?_) _)
      fun _ => composable.pure _
    exact composable.bind (offers.columns _ _) fun _ => composable.pure _
  case foreignKeys =>
    intro schema relations
    unfold resolveForeignKeys
    refine composable.bind (composable.mapM (fun relation => ?_) _)
      fun _ => composable.pure _
    refine composable.bind (offers.foreignKeys _ _) fun records => ?_
    refine composable.bind (composable.known (.mapM (fun record => ?_) _))
      fun _ => composable.pure _
    exact supported_resolveForeignKey schema relations relation record
  case indexes =>
    intro schema relations
    refine composable.mapM (fun relation => ?_) _
    refine composable.bind (offers.indexes _ _) fun records => ?_
    refine composable.bind (composable.mapM (fun record => ?_) records)
      fun _ => composable.pure _
    refine composable.bind (offers.indexColumns _ _ _) fun columns => ?_
    refine composable.bind (offers.indexOrder _ _ _) fun order => ?_
    exact composable.bind (composable.known (supported_orderFields _ _ _ _ _))
      fun _ => composable.pure _

private theorem supports_graph {adapter : Adapter} (honest : adapter.Honest)
    (options : Options) : (graph adapter options).Supports :=
  (composed_graph (asks_of_offers .supports honest options)).supports id

theorem asks_reads (engine : Engine) (options : Options)
    (capabilities : Capabilities) :
    Asks (fun inquiry => inquiry.Reads engine capabilities.Allows)
      ((Adapter.builtin engine).withCapabilities capabilities) options :=
  asks_of_offers (.reads engine _) (Adapter.offers_reads engine capabilities)
    options

end Offers

section Outcomes

variable {α β : Type} {surroundings : Surroundings}

/-- Where an inquiry finds the same whenever it is made, a session goes on with
that. -/
theorem exists_outcome_ask_bind {inquiry : Inquiry α} {value : α}
    (steady : inquiry.Steady surroundings.connection)
    (returns : inquiry.Returns surroundings.connection value)
    (next : α → Session β) (before : Journal) :
    ∃ after : Journal, after.draws = before.draws ∧
      ((Session.ask inquiry >>= next) surroundings before).1 =
        (next value surroundings after).1 := by
  obtain ⟨history, found⟩ := returns
  rw [steady history, ← steady before.requests] at found
  have asks := ask_apply inquiry surroundings before
  rw [found] at asks
  refine ⟨Record.append before
    (.ofRequests (inquiry surroundings.connection before.requests).2), rfl, ?_⟩
  rw [bind_of_ok asks]

private theorem exists_outcome_reach_bind (phase : Phase) (schema : String)
    (next : Unit → Session β) (before : Journal) :
    ∃ after : Journal, after.draws = before.draws ∧
      ((Session.reach phase schema >>= next) surroundings before).1 =
        (next () surroundings after).1 :=
  ⟨Record.append before (.ofReached phase schema), rfl, rfl⟩

variable {adapter : Adapter} {options : Options}

/-- A build goes on from the schema, the enumerations and the routines that are
found, whenever they are. -/
theorem exists_outcome_graph
    (steady : Asks (fun inquiry => inquiry.Steady surroundings.connection)
      adapter options) {schema : String} {enumerations : List Enumeration}
    {routines : List Routine}
    (findsSchema :
      (schemaToLoad adapter options).Returns surroundings.connection schema)
    (loadsEnums : (loadEnumerations adapter options schema).Returns
      surroundings.connection enumerations)
    (loadsRoutines : (loadRoutines adapter options schema).Returns
      surroundings.connection routines) (before : Journal) :
    ∃ after : Journal, after.draws = before.draws ∧
      (graph adapter options surroundings before).1 =
        (graphWith adapter options schema enumerations routines surroundings
          after).1 := by
  obtain ⟨_, draws₁, run₁⟩ :=
    exists_outcome_ask_bind steady.schema findsSchema _ before
  obtain ⟨_, draws₂, run₂⟩ :=
    exists_outcome_ask_bind (steady.enumerations schema) loadsEnums _ _
  obtain ⟨_, draws₃, run₃⟩ :=
    exists_outcome_reach_bind .enumsLoaded schema _ _
  obtain ⟨_, draws₄, run₄⟩ :=
    exists_outcome_ask_bind (steady.routines schema) loadsRoutines _ _
  obtain ⟨after, draws₅, run₅⟩ :=
    exists_outcome_reach_bind .routinesLoaded schema _ _
  refine ⟨after, ?_, ?_⟩
  · rw [draws₅, draws₄, draws₃, draws₂, draws₁]
  · rw [graph_eq]
    exact run₁.trans (run₂.trans (run₃.trans (run₄.trans run₅)))

end Outcomes

section Switched

private theorem returns_listing_of_kept {α : Type} {listing : Inquiry (List α)}
    {connection : Connection} {lists keep : Bool} {values : List α}
    (returns : (if lists then listing else pure []).Returns connection values) :
    (if lists && keep then listing else pure []).Returns connection
      (if keep then values else []) := by
  cases keep with
  | false =>
      rw [Bool.and_false]
      exact ⟨[], rfl⟩
  | true =>
      rw [Bool.and_true]
      exact returns

variable {engine : Engine} {options : Options} {capabilities : Capabilities}
  {replies : CatalogQuery → List String → Except DriverError (List Row)}
  {execution : String → Except DriverError Unit} {surroundings : Surroundings}

/-- To switch enumerations or routines off takes them out of a graph and changes
nothing else in it. -/
theorem graph_keeping
    (scripted : surroundings.connection = .scripted replies execution)
    {before : Journal} {graph : Graph}
    (built : (Build.graph
      ((Adapter.builtin engine).withCapabilities capabilities)
      options surroundings before).1 = .ok graph) (enums routines : Bool) :
    (Build.graph ((Adapter.builtin engine).withCapabilities
        (capabilities.keeping enums routines)) options surroundings before).1 =
      .ok { graph with
        enumerations := if enums then graph.enumerations else []
        routines := if routines then graph.routines else [] } := by
  have anytime : ∀ {α : Type} {inquiry : Inquiry α} {topics : Topic → Prop},
      inquiry.Reads engine topics → ∀ history other,
        inquiry surroundings.connection history =
          inquiry surroundings.connection other := by
    intro α inquiry topics reads history other
    rw [scripted]
    exact reads.anytime history other
  have steady : ∀ capabilities,
      Asks (fun inquiry => inquiry.Steady surroundings.connection)
        ((Adapter.builtin engine).withCapabilities capabilities) options :=
    fun capabilities => (asks_reads engine options capabilities).mono
      fun reads history => congrArg Prod.fst (anytime reads history [])
  obtain ⟨course, rfl⟩ := exists_course_of_returns ⟨before, built⟩
  obtain ⟨after, sameDraws, outcome⟩ := exists_outcome_graph (steady _)
    course.schemaFound course.enumerationsLoaded course.routinesLoaded before
  obtain ⟨other, otherDraws, otherOutcome⟩ := exists_outcome_graph
    (steady (capabilities.keeping enums routines)) course.schemaFound
    (returns_listing_of_kept course.enumerationsLoaded)
    (returns_listing_of_kept course.routinesLoaded) before
  -- No later phase reads the two flags, or depends on what was asked before.
  have sameAdapter : graphWith ((Adapter.builtin engine).withCapabilities
        (capabilities.keeping enums routines)) options course.schema [] [] =
      graphWith ((Adapter.builtin engine).withCapabilities capabilities) options
        course.schema [] [] := rfl
  have sameRun := (composed_graphWith (asks_reads engine options capabilities)
    course.schema [] []).apply_eq_of_draws anytime
      (otherDraws.trans sameDraws.symm)
  rw [outcome, graphWith_eq, map_apply] at built
  rw [otherOutcome, graphWith_eq, map_apply, sameAdapter, sameRun]
  cases bare : (graphWith
    ((Adapter.builtin engine).withCapabilities capabilities)
      options course.schema [] [] surroundings after).1 with
  | error cause =>
      rw [bare] at built
      cases built
  | ok graph =>
      rw [bare] at built
      have same := Except.ok.inj built
      rw [← same]
      rfl

end Switched

namespace Course

variable {adapter : Adapter} {options : Options} {surroundings : Surroundings}
  (course : Course adapter options surroundings)

theorem enumerations_eq_nil (unlisted : adapter.capabilities.enums = false) :
    course.enumerations = [] := by
  have returns := course.enumerationsLoaded
  rw [loadEnumerations, unlisted] at returns
  exact eq_of_returns_pure returns

theorem routines_eq_nil (unlisted : adapter.capabilities.routines = false) :
    course.routines = [] := by
  have returns := course.routinesLoaded
  rw [loadRoutines, unlisted] at returns
  exact eq_of_returns_pure returns

theorem synthesized_eq_false
    (unadded : adapter.capabilities.primaryKeyIndexSynthesis = false)
    {name : String} {relation : Relation}
    (held : course.graph.relation? name = some relation) {index : Index}
    (owned : index ∈ relation.indexes) : index.synthesized = false := by
  obtain ⟨records, listed, _, each, indexes⟩ := course.exists_records held
  have noneAdded : addedIndexes adapter relation records = [] := by
    rw [addedIndexes, unadded]
    rfl
  rw [noneAdded, List.append_nil] at indexes
  obtain ⟨_, _, reports⟩ := exists_mem_of_forall₂ each (indexes ▸ owned)
  exact reports.listed

end Course

end Build

/-- A build over the adapter of an engine whose capabilities are overridden. -/
def Engine.buildWith (engine : Engine) (options : Options)
    (capabilities : Capabilities) (surroundings : Surroundings) : BuildReport :=
  ((GraphBuilder.new ((Adapter.builtin engine).withCapabilities capabilities)
    options).build surroundings).1

/-- What an engine declares suffices for every run, and what is switched off is
neither asked for nor found, and changes nothing else. -/
structure Engine.CapabilitiesHold (engine : Engine) (options : Options) :
    Prop where
  builds : ∀ surroundings, Supported
    ((GraphBuilder.new (.builtin engine) options).build surroundings).1.outcome
  introspects : ∀ spec surroundings before, Supported
    (TypedQuery.introspect (.builtin engine) options spec surroundings before).1
  withoutEnums : ∀ capabilities surroundings, capabilities.enums = false →
    (∀ request ∈ (engine.buildWith options capabilities
        surroundings).journal.requests,
      request.isAbout [.enums, .enumLabels] = false) ∧
    ∀ graph, (engine.buildWith options capabilities surroundings).outcome =
      .ok graph → graph.enumerations = []
  withoutRoutines : ∀ capabilities surroundings, capabilities.routines = false →
    (∀ request ∈ (engine.buildWith options capabilities
        surroundings).journal.requests,
      request.isAbout [.routineResultsExist, .routines, .routineParameters] =
        false) ∧
    ∀ graph, (engine.buildWith options capabilities surroundings).outcome =
      .ok graph → graph.routines = []
  withoutSynthesis : ∀ capabilities surroundings,
    capabilities.primaryKeyIndexSynthesis = false →
    ∀ graph, (engine.buildWith options capabilities surroundings).outcome =
      .ok graph →
    ∀ name relation, graph.relation? name = some relation →
      ∀ index ∈ relation.indexes, index.synthesized = false
  switched : ∀ capabilities replies execution surroundings,
    surroundings.connection = .scripted replies execution →
    ∀ graph, (engine.buildWith options capabilities surroundings).outcome =
      .ok graph →
    ∀ enums routines, (engine.buildWith options
        (capabilities.keeping enums routines) surroundings).outcome =
      .ok { graph with
        enumerations := if enums then graph.enumerations else []
        routines := if routines then graph.routines else [] }

namespace Engine

open Build Session

/-- A build asks about nothing that the capabilities do not allow. -/
theorem isAbout_eq_false_of_buildWith {engine : Engine} {options : Options}
    {capabilities : Capabilities} {surroundings : Surroundings}
    {topics : List Topic}
    (forbidden : ∀ topic ∈ topics, ¬capabilities.Allows topic) :
    ∀ request ∈ (engine.buildWith options capabilities
        surroundings).journal.requests, request.isAbout topics = false := by
  rw [buildWith, journal_build]
  refine (composed_graph (asks_reads engine options capabilities)).requests ?_
    surroundings Journal.none
  intro α inquiry reads connection before request membership
  obtain ⟨query, parameters, rfl, allowed⟩ :=
    reads.about_of_mem connection before request membership
  rw [Request.isAbout, Bool.eq_false_iff, Ne, List.contains_iff_mem]
  exact fun among => forbidden _ among allowed

/-- The capabilities of every engine hold, whatever the options. -/
theorem capabilitiesHold (engine : Engine) (options : Options) :
    engine.CapabilitiesHold options := by
  have honest := Adapter.honest_builtin engine
  constructor
  case builds =>
    intro surroundings
    rw [outcome_build]
    exact supports_graph honest options surroundings Journal.none
  case introspects =>
    exact fun spec => TypedQuery.supports_introspect honest options spec
  case withoutEnums =>
    intro capabilities surroundings off
    constructor
    · apply isAbout_eq_false_of_buildWith
      simp [Capabilities.Allows, off]
    · intro graph built
      obtain ⟨course, rfl⟩ := exists_course_of_build built
      exact course.enumerations_eq_nil off
  case withoutRoutines =>
    intro capabilities surroundings off
    constructor
    · apply isAbout_eq_false_of_buildWith
      simp [Capabilities.Allows, off]
    · intro graph built
      obtain ⟨course, rfl⟩ := exists_course_of_build built
      exact course.routines_eq_nil off
  case withoutSynthesis =>
    intro capabilities surroundings off graph built name relation held index
      owned
    obtain ⟨course, rfl⟩ := exists_course_of_build built
    exact course.synthesized_eq_false off held owned
  case switched =>
    intro capabilities replies execution surroundings scripted graph built enums
      routines
    rw [buildWith, outcome_build] at built ⊢
    exact graph_keeping scripted built enums routines

-- What an engine does not declare cannot be switched on.
example :
    (Engine.sqlite.buildWith .standard
      { (Adapter.builtin .sqlite).capabilities with enums := true }
      ⟨.scripted (fun _ _ => .ok []) fun _ => .ok (),
        ⟨fun _ => 0, 0⟩⟩).outcome =
        .error (.unsupported .sqlite "enums") :=
  rfl

end Engine

end SchemaAtlas
