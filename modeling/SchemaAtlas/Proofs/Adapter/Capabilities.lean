import SchemaAtlas.Proofs.AdHoc.ViewLifetime
import SchemaAtlas.Proofs.Exchange.Supporting

/-!
# Capabilities of adapters

An adapter is honest if it supports every inquiry that its capabilities let a
run make.  The library's own adapters are honest, so no build over them and no
introspection of a query ends because something is not supported.

Capabilities can be overridden.  A build asks only about topics that they allow.
-/

namespace SchemaAtlas

open Recorded Inquiry

/-- The topics that a build with some capabilities may ask about. -/
def Capabilities.Allows (capabilities : Capabilities) : Topic → Prop
  | .enums | .enumLabels => capabilities.enums = true
  | .routineResultsExist | .routines | .routineParameters =>
    capabilities.routines = true
  | _ => True

/-- The capabilities, with enumerations or routines switched off unless they are
kept. -/
def Capabilities.keeping (capabilities : Capabilities) (enums routines : Bool) :
    Capabilities :=
  { capabilities with
    enums := capabilities.enums && enums
    routines := capabilities.routines && routines }

theorem Capabilities.allows_of_probe? (capabilities : Capabilities)
    {topic : Topic} {kind : Probe} (isProbe : topic.probe? = some kind) :
    capabilities.Allows topic := by
  cases topic with
  | sequences | rowidTables | identityTables | autoIncrement => trivial
  | _ => cases isProbe

namespace Adapter

/-- The adapter with other capabilities; what it does otherwise stays its
own. -/
def withCapabilities (adapter : Adapter) (capabilities : Capabilities) :
    Adapter :=
  { adapter with capabilities }

/-- What the capabilities of an adapter let a run ask of it is of some kind. -/
structure Offers (asks : {α : Type} → Inquiry α → Prop) (adapter : Adapter) :
    Prop where
  schemaName : asks adapter.schemaName
  enums : adapter.capabilities.enums = true →
    ∀ schema, asks (adapter.enums schema)
  enumLabels : adapter.capabilities.enums = true →
    ∀ schema enumeration, asks (adapter.enumLabels schema enumeration)
  routines : adapter.capabilities.routines = true →
    ∀ schema, asks (adapter.routines schema)
  routineParameters : adapter.capabilities.routines = true →
    ∀ schema routine, asks (adapter.routineParameters schema routine)
  tables : ∀ schema word, asks (adapter.tables schema word)
  sequenceTables : ∀ schema, asks (adapter.sequenceTables schema)
  autoIncrementTables : ∀ schema, asks (adapter.autoIncrementTables schema)
  columns : ∀ schema relation, asks (adapter.columns schema relation)
  foreignKeys : ∀ schema relation, asks (adapter.foreignKeys schema relation)
  indexes : ∀ schema relation, asks (adapter.indexes schema relation)
  indexColumns : ∀ schema relation index,
    asks (adapter.indexColumns schema relation index)
  indexOrder : ∀ schema relation index,
    asks (adapter.indexOrder schema relation index)
  viewSchema : ∀ view, asks (adapter.viewSchema view)

/-- An adapter supports what its capabilities let a run ask. -/
def Honest (adapter : Adapter) : Prop :=
  adapter.Offers fun inquiry => inquiry.Supports

private theorem supports_requireOrder (relation index : String)
    (order? : Option String) :
    (requireOrder relation index order?).Supports := by
  cases order? with
  | none => exact .throw nofun
  | some order => exact .pure order

theorem honest_builtin (engine : Engine) : (builtin engine).Honest := by
  constructor
  case schemaName =>
    cases engine with
    | sqlite => exact .pure _
    | postgresql | cockroachdb | mysql | oracle =>
        exact (supports_value? _ _).bind fun _ => .pure _
  case enums =>
    intro lists schema
    cases engine with
    | sqlite | oracle => cases lists
    | postgresql | cockroachdb | mysql => exact supports_listOf _ _ _
  case enumLabels =>
    intro lists schema enumeration
    cases engine with
    | sqlite | oracle => cases lists
    | postgresql | cockroachdb => exact supports_listOf _ _ _
    | mysql => exact (supports_value? _ _).bind fun _ => .pure _
  case routines =>
    intro lists schema
    cases engine with
    | sqlite | oracle => cases lists
    | postgresql | cockroachdb =>
        refine (supports_listOf _ _ _).bind fun known => ?_
        split
        · exact supports_listOf _ _ _
        · exact .pure []
    | mysql => exact supports_listOf _ _ _
  case routineParameters =>
    intro lists schema routine
    cases engine with
    | sqlite | oracle => cases lists
    | postgresql | cockroachdb | mysql => exact supports_listOf _ _ _
  case sequenceTables =>
    intro schema
    cases engine with
    | sqlite | postgresql | cockroachdb => exact supports_listOf _ _ _
    | mysql | oracle => exact .pure []
  case autoIncrementTables =>
    intro schema
    cases engine with
    | sqlite | cockroachdb | mysql | oracle => exact supports_listOf _ _ _
    | postgresql => exact .pure []
  case tables | columns | foreignKeys | indexes | indexColumns =>
    intros
    cases engine with
    | sqlite | postgresql | cockroachdb | mysql | oracle =>
        exact supports_listOf _ _ _
  case indexOrder =>
    intro schema relation index
    cases engine with
    | sqlite | postgresql | cockroachdb | mysql | oracle =>
        exact (supports_value? _ _).bind fun _ => supports_requireOrder _ _ _
  case viewSchema =>
    intro view
    cases engine with
    | sqlite => exact .pure _
    | postgresql | cockroachdb =>
        refine (supports_value? _ _).bind fun schema? => ?_
        cases schema? with
        | none => exact .throw nofun
        | some schema => exact .pure schema
    | mysql | oracle => exact (supports_value? _ _).bind fun _ => .pure _

/-- What can be asked of an adapter with other capabilities is about topics that
they allow. -/
theorem offers_reads (engine : Engine) (capabilities : Capabilities) :
    ((builtin engine).withCapabilities capabilities).Offers fun inquiry =>
      inquiry.Reads engine capabilities.Allows where
  schemaName := reads_schemaName engine trivial
  enums lists := reads_enums engine lists
  enumLabels lists := reads_enumLabels engine lists
  routines lists := reads_routines engine lists lists
  routineParameters lists := reads_routineParameters engine lists
  tables schema word := (lists_tables engine schema word).reads trivial rfl
  sequenceTables schema := (probes_sequenceTables engine schema).reads fun _ =>
    capabilities.allows_of_probe?
  autoIncrementTables schema :=
    (probes_autoIncrementTables engine schema).reads fun _ =>
      capabilities.allows_of_probe?
  columns schema relation :=
    (lists_columns engine schema relation).reads trivial rfl
  foreignKeys := reads_foreignKeys engine trivial
  indexes := reads_indexes engine trivial
  indexColumns := reads_indexColumns engine trivial
  indexOrder := reads_indexOrder engine trivial
  viewSchema := reads_viewSchema engine trivial trivial

end Adapter

private theorem Build.supports_schemaToLoad {adapter : Adapter}
    (honest : adapter.Honest)
    (options : Options) : (schemaToLoad adapter options).Supports := by
  unfold schemaToLoad
  cases options.schema with
  | none => exact honest.schemaName
  | some schema => exact .pure schema

theorem View.supports_during {α : Type} {use : String → Inquiry α}
    (each : ∀ name, (use name).Supports) (adapter : Adapter)
    (statement : String) : (during adapter statement use).Supports := by
  have drops : ∀ name, (drop adapter name).Supports := by
    intro name surroundings before
    rw [drop_apply]
    exact .ok _
  refine Supports.bind (fun surroundings before => ?_) fun name => ?_
  · rw [drawName_apply]
    exact .ok _
  · refine Supports.bind (fun _ _ => .ok _) fun created => ?_
    cases created with
    | error cause => exact .throw nofun
    | ok _ =>
        refine (Supports.attempt _).bind_of_returns ?_
        intro surroundings outcome returns before
        obtain ⟨history, rfl⟩ := exists_run_of_returns_attempt returns
        have used := Session.supports_ask (each name) surroundings history
        exact ((drops name).bind fun _ => .ofExcept used) surroundings before

/-- To introspect a query over an honest adapter never lacks a capability. -/
theorem TypedQuery.supports_introspect {adapter : Adapter}
    (honest : adapter.Honest) (options : Options) (spec : QuerySpec) :
    (introspect adapter options spec).Supports := by
  have reads : Supported (Template.read spec.interpolate spec.statement) := by
    rcases Template.read_eq_error_or_ok spec with
      ⟨body, _, failed⟩ | ⟨template, read, _⟩
    · rw [failed]
      intro engine capability unsupported
      cases unsupported
    · rw [read]
      exact .ok template
  have columns : ∀ name, (View.columnsOf adapter name).Supports := fun name =>
    (honest.viewSchema name).bind fun schema => honest.columns schema name
  refine (Supports.ofExcept reads).bind fun template => ?_
  refine (Session.supports_ask
    (Build.supports_schemaToLoad honest options)).bind fun schema => ?_
  refine Supports.bind ?_ fun fields => .pure _
  unfold TypedQuery.fields
  split
  · exact .pure _
  · refine Supports.bind ?_ fun columns => .pure _
    exact (View.supports_during columns adapter _).bind fun _ => .pure _

end SchemaAtlas
