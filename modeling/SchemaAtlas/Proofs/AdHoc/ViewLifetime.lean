import SchemaAtlas.AdHoc.Query
import SchemaAtlas.Proofs.Adapter.Inquiries
import SchemaAtlas.Proofs.Exchange.Sessions

/-!
# The lifetime of a throwaway view

A typed query creates at most one view.  If it has been created, dropping it is
the last thing that the connection is asked to do, whatever became of the
columns in between, and the answer to that changes nothing but whether a warning
is told.
-/

namespace SchemaAtlas

open Recorded

def Request.statements (requests : List Request) : List String :=
  requests.filterMap fun
    | .query .. => none
    | .execute sql => some sql

theorem Inquiry.OnlyAsks.statements_eq_nil {α : Type} {inquiry : Inquiry α}
    (onlyAsks : inquiry.OnlyAsks) {connection : Connection}
    {before asked : List Request} {outcome : Except Error α}
    (run : inquiry connection before = (outcome, asked)) :
    Request.statements asked = [] := by
  have isQuery := onlyAsks.isQuery connection before
  rw [run] at isQuery
  apply List.filterMap_eq_nil_iff.mpr
  intro request membership
  cases request with
  | query query parameters => rfl
  | execute sql => exact (isQuery _ membership).elim

theorem Request.statements_append (first second : List Request) :
    statements (first ++ second) = statements first ++ statements second :=
  List.filterMap_append

/-- Between queries there are the two statements that open and close a view. -/
theorem Request.statements_bracket {asked between : List Request}
    (noneAsked : statements asked = []) (noneBetween : statements between = [])
    (opening closing : String) :
    statements ((asked ++ .execute opening :: between) ++ [.execute closing]) =
      [opening, closing] := by
  have shape : asked ++ .execute opening :: between =
      asked ++ ([.execute opening] ++ between) := rfl
  rw [shape, statements_append, statements_append, statements_append, noneAsked,
    noneBetween]
  rfl

/-- The statements that were carried out in a session. -/
def Journal.executed (journal : Journal) : List String :=
  Request.statements journal.requests

namespace View

/-- The quoted name of a view as an engine is told it. -/
def quotedName : Engine → String → String
  | .sqlite, name | .postgresql, name | .cockroachdb, name =>
    Adapter.quoteWith '\x22' name
  | .mysql, name => Adapter.quoteWith MySql.quoteMark name
  | .oracle, name => Adapter.quoteWith '\x22' (Text.uppercase name)

/-- The statement of a view as an engine is told it. -/
def body : Engine → String → String
  | .sqlite, statement => statement
  | _, statement => "(" ++ statement ++ ")"

def createStatement (engine : Engine) (name statement : String) : String :=
  "CREATE VIEW " ++ quotedName engine name ++ " AS " ++ body engine statement

def dropStatement (engine : Engine) (name : String) : String :=
  "DROP VIEW " ++ quotedName engine name

/-- The name of a view for which numbers are drawn after others. -/
def nameFrom (random : RandomSource) (draws : Nat) : String :=
  namePrelude ++ identifierOf [random.draw draws, random.draw (draws + 1),
    random.draw (draws + 2), random.draw (draws + 3)]

/-- What is told of the attempt to drop a view. -/
def dropEvents (name : String) : Except DriverError Unit → List Event
  | .ok () => []
  | .error cause => [.viewNotDropped name cause]

private theorem level_of_mem_dropEvents {name : String}
    {answer : Except DriverError Unit} :
    ∀ event ∈ dropEvents name answer, event.level = "warn" := by
  intro event membership
  cases answer with
  | ok => cases membership
  | error cause =>
      rw [List.mem_singleton.mp membership]
      rfl

theorem createViewAs_eq (quotedName statement : String) :
    Adapter.createViewAs quotedName statement =
      "CREATE VIEW " ++ quotedName ++ " AS " ++ ("(" ++ statement ++ ")") := by
  have opening : " AS (" = " AS " ++ "(" := by decide
  rw [Adapter.createViewAs, opening]
  simp only [String.append_assoc]

theorem createView_builtin (engine : Engine) (name statement : String) :
    (Adapter.builtin engine).createView name statement =
      createStatement engine name statement := by
  cases engine with
  | sqlite => rfl
  | postgresql | cockroachdb | mysql | oracle =>
      exact createViewAs_eq _ statement

theorem dropView_builtin (engine : Engine) (name : String) :
    (Adapter.builtin engine).dropView name = dropStatement engine name := by
  cases engine <;> rfl

variable {adapter : Adapter} {statement : String} {α : Type}
  {use : String → Inquiry α} {surroundings : Surroundings} {before : Journal}

theorem drawName_apply (surroundings : Surroundings) (before : Journal) :
    drawName surroundings before =
      (.ok (nameFrom surroundings.random before.draws), ⟨[], [], 4, none⟩) :=
  rfl

theorem drop_apply (adapter : Adapter) (name : String)
    (surroundings : Surroundings) (before : Journal) :
    drop adapter name surroundings before =
      (.ok (),
        ⟨[.execute (adapter.dropView name)],
          dropEvents name (surroundings.connection.execute before.requests
            (adapter.dropView name)), 0, none⟩) := by
  rw [drop, bind_of_ok (Session.execute_apply _ _ _)]
  cases surroundings.connection.execute before.requests
      (adapter.dropView name) <;> rfl

variable {name create : String}

/-- A view that is not created leaves nothing behind. -/
theorem during_of_refused {cause : DriverError}
    (named : nameFrom surroundings.random before.draws = name)
    (creates : adapter.createView name statement = create)
    (refused : surroundings.connection.execute before.requests create =
      .error cause) :
    during adapter statement use surroundings before =
      (.error (.driver cause), ⟨[.execute create], [], 4, none⟩) := by
  subst named creates
  rw [during, bind_of_ok (drawName_apply surroundings before),
    bind_of_ok (Session.execute_apply _ _ _), Journal.requests_append,
    List.append_nil, refused]
  rfl

/-- The use of a view that has been created, and the end of the view. -/
theorem use_drop_apply {outcome : Except Error α} {asked : List Request}
    (used : use name surroundings.connection before.requests =
      (outcome, asked)) :
    (do
      let outcome ← (Session.ask (use name)).attempt
      drop adapter name
      Recorded.ofExcept outcome : Session α) surroundings before =
      (outcome,
        ⟨asked ++ [.execute (adapter.dropView name)],
          dropEvents name (surroundings.connection.execute
            (before.requests ++ asked) (adapter.dropView name)), 0, none⟩) := by
  have run : (Session.ask (use name)).attempt surroundings before =
      (.ok outcome, .ofRequests asked) := by
    rw [attempt, Session.ask_apply, used]
  rw [bind_of_ok run, bind_of_ok (drop_apply _ _ _ _),
    Journal.requests_append, Journal.requests_ofRequests]
  simp [Record.append, Journal.append, Record.none, Journal.none,
    Journal.ofRequests, Recorded.ofExcept]

/-- A view that is created is dropped in the end, whatever the outcome of its
use. -/
theorem during_of_created {outcome : Except Error α} {asked : List Request}
    (named : nameFrom surroundings.random before.draws = name)
    (creates : adapter.createView name statement = create)
    (created : surroundings.connection.execute before.requests create = .ok ())
    (used : use name surroundings.connection
      (before.requests ++ [.execute create]) = (outcome, asked)) :
    during adapter statement use surroundings before =
      (outcome,
        ⟨.execute create :: asked ++ [.execute (adapter.dropView name)],
          dropEvents name (surroundings.connection.execute
            (before.requests ++ .execute create :: asked)
            (adapter.dropView name)), 4, none⟩) := by
  subst named creates
  rw [during, bind_of_ok (drawName_apply surroundings before),
    bind_of_ok (Session.execute_apply _ _ _), Journal.requests_append,
    List.append_nil, created]
  dsimp only
  rw [use_drop_apply (by simpa using used)]
  simp [Record.append, Journal.append, Journal.ofRequests]

theorem onlyAsks_columnsOf (engine : Engine) (name : String) :
    (columnsOf (Adapter.builtin engine) name).OnlyAsks := by
  have reads : (columnsOf (Adapter.builtin engine) name).Reads engine
      fun _ => True :=
    (Adapter.reads_viewSchema engine trivial trivial name).bind fun schema =>
      (Adapter.lists_columns engine schema name).reads trivial rfl
  exact reads.onlyAsks

end View

/-- The text between the marks of a parameter of a statement that is not of the
form of a parameter. -/
def QuerySpec.Malformed (spec : QuerySpec) (body : List Char) : Prop :=
  Segment.parameter body ∈ Segment.ofStatement spec.statement ∧
    QueryParameter.read? spec.interpolate body = none

theorem Template.readSegment_eq_error_iff {allowInterpolate : Bool}
    {segment : Segment} {cause : Error} :
    readSegment allowInterpolate segment = .error cause ↔
      ∃ body, segment = .parameter body ∧
        QueryParameter.read? allowInterpolate body = none ∧
        cause = .queryParameter (String.ofList body) := by
  cases segment with
  | literal text => simp [readSegment]
  | parameter body =>
      rw [readSegment, QueryParameter.read]
      cases read : QueryParameter.read? allowInterpolate body with
      | none => simp [Except.map, read, eq_comm]
      | some parameter => simp [Except.map, read]

/-- A statement is read unless one of its parameters is malformed, which is the
error then. -/
theorem Template.read_eq_error_or_ok (spec : QuerySpec) :
    (∃ body, spec.Malformed body ∧
      Template.read spec.interpolate spec.statement =
        .error (.queryParameter (String.ofList body))) ∨
      ∃ template, Template.read spec.interpolate spec.statement = .ok template ∧
        ∀ body, ¬ spec.Malformed body := by
  rcases mapM_eq_error_or_ok (readSegment spec.interpolate)
      (Segment.ofStatement spec.statement) with
    ⟨segment, inStatement, cause, failed, run⟩ | ⟨template, run, each⟩
  · left
    obtain ⟨body, rfl, unread, rfl⟩ := readSegment_eq_error_iff.mp failed
    exact ⟨body, ⟨inStatement, unread⟩, run⟩
  · refine .inr ⟨template, run, ?_⟩
    rintro body ⟨inStatement, unread⟩
    obtain ⟨piece, succeeded⟩ := each _ inStatement
    have failed := readSegment_eq_error_iff.mpr ⟨body, rfl, unread, rfl⟩
    rw [failed] at succeeded
    cases succeeded

namespace TypedQuery

variable {adapter : Adapter} {options : Options} {spec : QuerySpec}

/-- The statement that a view is created of: one without parameters, whose rows
have the columns of the query. -/
def inspected (spec : QuerySpec) (template : Template) : String :=
  "\n".intercalate
    (lines spec.trim (template.render false fun _ => "NULL"))

theorem introspect_of_unread {cause : Error}
    (unread : Template.read spec.interpolate spec.statement = .error cause)
    (surroundings : Surroundings) (before : Journal) :
    introspect adapter options spec surroundings before =
      (.error cause, Journal.none) := by
  rw [introspect, unread]
  rfl

/-- Behind a statement that is read, the schema is looked for and the fields are
found in it; the rest of the query does not depend on the session. -/
theorem introspect_of_read (adapter : Adapter) (options : Options)
    {template : Template}
    (read : Template.read spec.interpolate spec.statement = .ok template) :
    ∃ assemble : String → List Field → TypedQuery,
      ∀ surroundings before,
        introspect adapter options spec surroundings before =
          match Build.schemaToLoad adapter options surroundings.connection
            before.requests with
          | (.error cause, asked) => (.error cause, .ofRequests asked)
          | (.ok schema, asked) =>
            ((fields adapter options spec schema (inspected spec template)
                surroundings (Record.append before (.ofRequests asked))).1.map
                (assemble schema),
              Record.append (Journal.ofRequests asked)
                (fields adapter options spec schema (inspected spec template)
                  surroundings
                    (Record.append before (.ofRequests asked))).2) := by
  refine ⟨?assemble, fun surroundings before => ?run⟩
  case run =>
    rw [introspect, read, ofExcept_ok, pure_bind]
    cases discovery : Build.schemaToLoad adapter options
        surroundings.connection before.requests with
    | mk outcome asked =>
        cases outcome with
        | error cause =>
            have run : Session.ask (Build.schemaToLoad adapter options)
                surroundings before = (.error cause, .ofRequests asked) := by
              rw [Session.ask_apply, discovery]
            exact bind_of_error run
        | ok schema =>
            have run : Session.ask (Build.schemaToLoad adapter options)
                surroundings before = (.ok schema, .ofRequests asked) := by
              rw [Session.ask_apply, discovery]
            dsimp only
            rw [bind_of_ok run, map_apply, inspected]

theorem fields_of_listed {list : String} (listed : spec.fields = some list)
    (schema inspected : String) (surroundings : Surroundings)
    (before : Journal) :
    fields adapter options spec schema inspected surroundings before =
      (.ok (listedFields options.initialisms list), Journal.none) := by
  rw [fields, listed]
  rfl

theorem fields_of_unlisted (adapter : Adapter) (options : Options)
    (unlisted : spec.fields = none)
    (schema inspected : String) :
    ∃ convert : List Catalog.ColumnRecord → List Field,
      ∀ surroundings before,
        fields adapter options spec schema inspected surroundings before =
          ((View.during adapter inspected (View.columnsOf adapter) surroundings
              before).1.map convert,
            (View.during adapter inspected (View.columnsOf adapter) surroundings
              before).2) := by
  refine ⟨?convert, fun surroundings before => ?run⟩
  case run =>
    rw [fields, unlisted]
    dsimp only
    rw [Adapter.queryColumns, bind_assoc]
    simp only [pure_bind]
    rw [map_apply]

end TypedQuery

/-- Two connections that differ at most in their answers to statements that drop
a view. -/
structure Connection.SameButDrops (left right : Connection) : Prop where
  query : left.query = right.query
  execute : ∀ history sql, ¬ "DROP VIEW ".toList <+: sql.toList →
    left.execute history sql = right.execute history sql

private theorem View.not_drop_createStatement (engine : Engine)
    (name statement : String) :
    ¬ "DROP VIEW ".toList <+:
      (createStatement engine name statement).toList := by
  rintro ⟨rest, shape⟩
  simp [createStatement] at shape

/-- What a connection answers to the attempt to drop a view makes no difference
to the outcome of its use and to what is asked. -/
theorem View.during_congr {α : Type} {use : String → Inquiry α}
    (useAsks : ∀ name, (use name).OnlyAsks) {connection : Connection}
    {surroundings : Surroundings}
    (same : surroundings.connection.SameButDrops connection) (engine : Engine)
    (statement : String) (before : Journal) :
    (during (Adapter.builtin engine) statement use
        { surroundings with connection } before).1 =
      (during (Adapter.builtin engine) statement use surroundings before).1 ∧
    (during (Adapter.builtin engine) statement use
        { surroundings with connection } before).2.requests =
      (during (Adapter.builtin engine) statement use surroundings
        before).2.requests := by
  obtain ⟨name, named⟩ :
      ∃ name, nameFrom surroundings.random before.draws = name := ⟨_, rfl⟩
  have sameName :
      nameFrom { surroundings with connection }.random before.draws = name :=
    named
  have creates := createView_builtin engine name statement
  have sameAnswer := same.execute before.requests _
    (not_drop_createStatement engine name statement)
  cases answer : surroundings.connection.execute before.requests
      (createStatement engine name statement) with
  | error cause =>
      rw [during_of_refused named creates answer,
        during_of_refused sameName creates (sameAnswer.symm.trans answer)]
      exact ⟨rfl, rfl⟩
  | ok =>
      cases used : use name surroundings.connection (before.requests ++
          [.execute (createStatement engine name statement)]) with
      | mk outcome asked =>
          have sameUse := ((useAsks name).congr same.query _).symm.trans used
          rw [during_of_created named creates answer used,
            during_of_created sameName creates (sameAnswer.symm.trans answer)
              sameUse]
          exact ⟨rfl, rfl⟩

/-- What becomes of the view of a statement, by the journal of the run that
needs it and by what the connection was asked before the view. -/
structure View.Lifetime {α : Type} (engine : Engine) (name statement : String)
    (connection : Connection) (before asked : List Request)
    (outcome : Except Error α) (journal : Journal) : Prop where
  /-- A view that is not created is the last thing that is asked for. -/
  refused : ∀ {cause}, connection.execute (before ++ asked)
      (createStatement engine name statement) = .error cause →
    outcome = .error (.driver cause) ∧ journal.events = [] ∧
      journal.executed = [createStatement engine name statement] ∧
      journal.requests.getLast? =
        some (.execute (createStatement engine name statement))
  /-- A view that is created is dropped once, which is the last thing that is
  asked for. -/
  dropped : connection.execute (before ++ asked)
      (createStatement engine name statement) = .ok () →
    journal.executed =
        [createStatement engine name statement, dropStatement engine name] ∧
      journal.requests.getLast? = some (.execute (dropStatement engine name)) ∧
      journal.events = dropEvents name (connection.execute
        (before ++ journal.requests.dropLast) (dropStatement engine name)) ∧
      ∀ event ∈ journal.events, event.level = "warn"

/-- A view has its lifetime, whatever it is used for and whatever was asked
before. -/
theorem View.lifetime_during {α β : Type} {use : String → Inquiry α}
    (useAsks : ∀ name, (use name).OnlyAsks) {asked : List Request}
    (noneAsked : Request.statements asked = []) (convert : α → β)
    (engine : Engine) (statement : String) (surroundings : Surroundings)
    (before : Journal) :
    View.Lifetime engine (nameFrom surroundings.random before.draws) statement
      surroundings.connection before.requests asked
      ((during (Adapter.builtin engine) statement use surroundings
        (Record.append before (.ofRequests asked))).1.map convert)
      (Record.append (.ofRequests asked)
        (during (Adapter.builtin engine) statement use surroundings
          (Record.append before (.ofRequests asked))).2) := by
  generalize drawn : nameFrom surroundings.random before.draws = name
  have named : nameFrom surroundings.random
      (Record.append before (.ofRequests asked)).draws = name := drawn
  have creates := createView_builtin engine name statement
  constructor
  case refused =>
    intro cause refused
    rw [during_of_refused named creates refused]
    refine ⟨rfl, rfl, ?_, List.getLast?_concat⟩
    rw [Journal.executed, Journal.requests_append, Journal.requests_ofRequests,
      Request.statements_append, noneAsked]
    rfl
  case dropped =>
    intro created
    cases used : use name surroundings.connection (before.requests ++ asked ++
        [.execute (createStatement engine name statement)]) with
    | mk outcome between =>
        have noneBetween := (useAsks name).statements_eq_nil used
        rw [during_of_created named creates created used, dropView_builtin]
        have shape : ∀ opening closing : Request,
            asked ++ (opening :: between ++ [closing]) =
              (asked ++ opening :: between) ++ [closing] := by
          simp
        refine ⟨?_, ?_, ?_, level_of_mem_dropEvents⟩
        · rw [Journal.executed, Journal.requests_append,
            Journal.requests_ofRequests, shape]
          exact Request.statements_bracket noneAsked noneBetween _ _
        · rw [Journal.requests_append, Journal.requests_ofRequests, shape]
          exact List.getLast?_concat
        · simp only [Journal.requests_append, Journal.requests_ofRequests,
            shape, List.dropLast_concat, ← List.append_assoc]
          rfl

namespace TypedQuery

/-- Whether a run of a typed query carries out statements, and which. -/
structure KeepsNoView (engine : Engine) (options : Options)
    (spec : QuerySpec) (surroundings : Surroundings) (before : Journal)
    (outcome : Except Error TypedQuery) (journal : Journal) : Prop where
  /-- With a malformed parameter nothing is asked at all. -/
  malformed : ∀ {body}, spec.Malformed body → journal = Journal.none ∧
    ∃ first, spec.Malformed first ∧
      outcome = .error (.queryParameter (String.ofList first))
  /-- Without a schema no statement is carried out. -/
  undiscovered : (∀ body, ¬ spec.Malformed body) → ∀ {cause asked},
    Build.schemaToLoad (Adapter.builtin engine) options
        surroundings.connection before.requests = (.error cause, asked) →
      outcome = .error cause ∧ journal.executed = []
  /-- With a list of fields no statement is carried out. -/
  listed : spec.fields ≠ none → journal.executed = []
  /-- Otherwise the fields are read from one view. -/
  viewed : (∀ body, ¬ spec.Malformed body) → spec.fields = none →
    ∀ {schema asked}, Build.schemaToLoad (Adapter.builtin engine) options
        surroundings.connection before.requests = (.ok schema, asked) →
      ∃ template, Template.read spec.interpolate spec.statement = .ok template ∧
        View.Lifetime engine (View.nameFrom surroundings.random before.draws)
          (inspected spec template) surroundings.connection before.requests
          asked outcome journal

theorem keepsNoView (engine : Engine) (options : Options) (spec : QuerySpec)
    (surroundings : Surroundings) (before : Journal) :
    KeepsNoView engine options spec surroundings before
      (introspect (Adapter.builtin engine) options spec surroundings before).1
      (introspect (Adapter.builtin engine) options spec surroundings
        before).2 := by
  rcases Template.read_eq_error_or_ok spec with
    ⟨body, isMalformed, unread⟩ | ⟨template, read, wellFormed⟩
  · rw [introspect_of_unread unread]
    constructor
    case malformed => exact fun _ => ⟨rfl, body, isMalformed, rfl⟩
    case undiscovered => exact fun wellFormed => (wellFormed _ isMalformed).elim
    case listed => exact fun _ => rfl
    case viewed => exact fun wellFormed => (wellFormed _ isMalformed).elim
  obtain ⟨assemble, run⟩ :=
    introspect_of_read (Adapter.builtin engine) options read
  rw [run]
  cases discovery : Build.schemaToLoad (Adapter.builtin engine) options
      surroundings.connection before.requests with
  | mk outcome asked =>
      have noneAsked :=
        (Build.onlyAsks_schemaToLoad engine options).statements_eq_nil discovery
      constructor
      case malformed => exact fun isMalformed => (wellFormed _ isMalformed).elim
      case undiscovered =>
        intro _ cause others same
        rw [discovery] at same
        cases same
        exact ⟨rfl, noneAsked⟩
      case listed =>
        intro listed
        obtain ⟨list, listed⟩ := Option.ne_none_iff_exists'.mp listed
        cases outcome with
        | error cause => exact noneAsked
        | ok schema =>
            dsimp only
            rw [fields_of_listed listed]
            show Request.statements (asked ++ []) = []
            rw [List.append_nil, noneAsked]
      case viewed =>
        intro _ unlisted schema others same
        rw [discovery] at same
        cases same
        obtain ⟨convert, viewed⟩ := fields_of_unlisted
          (Adapter.builtin engine) options unlisted schema
          (inspected spec template)
        refine ⟨template, read, ?_⟩
        have composed : ∀ columns : Except Error (List Catalog.ColumnRecord),
            (columns.map convert).map (assemble schema) =
              columns.map (assemble schema ∘ convert) := fun columns =>
          (comp_map convert (assemble schema) columns).symm
        dsimp only
        rw [viewed, composed]
        exact View.lifetime_during (View.onlyAsks_columnsOf engine) noneAsked _
          engine (inspected spec template) surroundings before

/-- What a connection answers to statements that drop a view makes no difference
to the outcome of a run and to what is asked. -/
theorem introspect_congr {connection : Connection}
    {surroundings : Surroundings}
    (same : surroundings.connection.SameButDrops connection) (engine : Engine)
    (options : Options) (spec : QuerySpec) (before : Journal) :
    let run := introspect (Adapter.builtin engine) options spec surroundings
      before
    let other := introspect (Adapter.builtin engine) options spec
      { surroundings with connection } before
    other.1 = run.1 ∧ other.2.requests = run.2.requests := by
  dsimp only
  rcases Template.read_eq_error_or_ok spec with
    ⟨body, _, unread⟩ | ⟨template, read, _⟩
  · rw [introspect_of_unread unread, introspect_of_unread unread]
    exact ⟨rfl, rfl⟩
  obtain ⟨assemble, run⟩ :=
    introspect_of_read (Adapter.builtin engine) options read
  rw [run, run, (Build.onlyAsks_schemaToLoad engine options).congr same.query]
  cases Build.schemaToLoad (Adapter.builtin engine) options connection
      before.requests with
  | mk outcome asked =>
      cases outcome with
      | error cause => exact ⟨rfl, rfl⟩
      | ok schema =>
          dsimp only
          cases listed : spec.fields with
          | some list =>
              rw [fields_of_listed listed, fields_of_listed listed]
              exact ⟨rfl, rfl⟩
          | none =>
              obtain ⟨convert, viewed⟩ := fields_of_unlisted
                (Adapter.builtin engine) options listed schema
                (inspected spec template)
              obtain ⟨sameOutcome, sameRequests⟩ := View.during_congr
                (View.onlyAsks_columnsOf engine) same engine
                (inspected spec template)
                  (Record.append before (.ofRequests asked))
              rw [viewed, viewed, sameOutcome, Journal.requests_append,
                Journal.requests_append]
              exact ⟨rfl, congrArg _ sameRequests⟩

/-- A run of a typed query leaves no view behind: a view that it creates is
dropped as the last thing that is asked of the connection.  Whether it can be
dropped makes no difference but for a warning. -/
theorem introspect_leaves_no_view (engine : Engine) (options : Options)
    (spec : QuerySpec) (surroundings : Surroundings) (before : Journal) :
    let run := introspect (Adapter.builtin engine) options spec surroundings
      before
    KeepsNoView engine options spec surroundings before run.1 run.2 ∧
      ∀ connection, surroundings.connection.SameButDrops connection →
        let other := introspect (Adapter.builtin engine) options spec
          { surroundings with connection } before
        other.1 = run.1 ∧ other.2.requests = run.2.requests :=
  ⟨keepsNoView engine options spec surroundings before, fun _ same =>
    introspect_congr same engine options spec before⟩

end TypedQuery

end SchemaAtlas
