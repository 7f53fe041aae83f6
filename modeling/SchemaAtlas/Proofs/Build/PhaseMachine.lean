import SchemaAtlas.Adapter.Sqlite
import SchemaAtlas.Proofs.Build.Composition
import SchemaAtlas.Proofs.Build.Course
import Mathlib.Data.List.Chain
import Mathlib.Data.List.Infix

/-!
# The machine of phases

A builder is a machine that is in a phase.  It moves forward only: a build
starts before the first phase, reaches the phases of the course in order, and
stays where it fails.  A session passes a course of phases if it reaches a
beginning of them, and all of them exactly when it succeeds; the steps of a
build are put together by this.

A call of a builder begins from the first phase again, so earlier calls of it,
failed ones included, make no difference.
-/

namespace SchemaAtlas

namespace Phase

def rank : Phase → Nat
  | .init => 0
  | .enumsLoaded => 1
  | .routinesLoaded => 2
  | .tablesLoaded => 3
  | .viewsLoaded => 4
  | .merged => 5
  | .foreignKeysResolved => 6
  | .indexesResolved => 7
  | .done => 8

instance : LT Phase := ⟨fun left right => left.rank < right.rank⟩

instance (left right : Phase) : Decidable (left < right) :=
  inferInstanceAs (Decidable (left.rank < right.rank))

/-- Move from a phase to a later one.  There is no way to stay or to go back. -/
def advance? (current next : Phase) : Option Phase :=
  if current < next then some next else none

theorem isChain_course : List.IsChain (· < ·) (.init :: course) := by
  decide

/-- The machine goes through phases that follow one another, and ends in the
last of them. -/
theorem foldlM_advance?_of_isChain {current : Phase} {passed : List Phase}
    (ascending : List.IsChain (· < ·) (current :: passed)) :
    passed.foldlM advance? current = some (passed.getLast?.getD current) := by
  induction passed generalizing current with
  | nil => rfl
  | cons next rest ih =>
      rw [List.isChain_cons_cons] at ascending
      rw [List.foldlM_cons, advance?, if_pos ascending.1, List.getLast?_cons]
      exact ih ascending.2

theorem getLast?_eq_done_iff {passed : List Phase}
    (inOrder : passed <+: course) :
    passed.getLast?.getD .init = .done ↔ passed = course := by
  have atEnd : ∀ passed ∈ course.inits,
      (passed.getLast?.getD .init = .done ↔ passed = course) := by
    decide
  exact atEnd passed ((List.mem_inits passed course).mpr inOrder)

end Phase

/-- The phase that an event tells, with the schema. -/
def Event.phase? : Event → Option (Phase × String)
  | .phaseReached phase schema => some (phase, schema)
  | _ => none

def Journal.phases (journal : Journal) : List (Phase × String) :=
  journal.events.filterMap Event.phase?

theorem Journal.phases_append (first second : Journal) :
    (Record.append first second).phases = first.phases ++ second.phases :=
  List.filterMap_append

namespace Session

open Recorded

variable {α β : Type}

/-- A session is composed of parts that tell of no phase. -/
def StaysInPhase (session : Session α) : Prop :=
  session.Composed (fun _ => True) fun event => event.phase? = none

namespace StaysInPhase

theorem ask (inquiry : Inquiry α) : StaysInPhase (Session.ask inquiry) :=
  Composed.ask trivial

variable {session : Session α} (stays : session.StaysInPhase)

include stays

theorem phases (surroundings : Surroundings) (before : Journal) :
    (session surroundings before).2.phases = [] :=
  List.filterMap_eq_nil_iff.mpr (stays.events surroundings before)

theorem reached (surroundings : Surroundings) (before : Journal) :
    (session surroundings before).2.reached = none := by
  induction stays generalizing before with
  | pure | givenUp | ask | tell | draw | patience => rfl
  | reach isTold => cases isTold
  | attempt _ ih => exact ih before
  | bind _ _ ihFirst ihNext =>
      refine record_bind (fun made : Journal => made.reached = none) ?joins
        (ihFirst before) ihNext
      case joins =>
        intro made more early late
        show Option.or more.reached made.reached = none
        rw [early, late, Option.or_none]

end StaysInPhase

/-- What a run did about the phases of a course: it told a beginning of them,
each with the schema, it is in the last one that it told, and it told all of
them exactly if it succeeded. -/
def RunPasses (schema : String) (course : List Phase)
    (run : Except Error α × Journal) : Prop :=
  ∃ passed, passed <+: course ∧
    run.2.phases = passed.map (fun phase => (phase, schema)) ∧
    run.2.reached = passed.getLast? ∧
    ((∃ value, run.1 = .ok value) ↔ passed = course)

/-- Every run of a session passes a course of phases. -/
def Passes (schema : String) (course : List Phase) (session : Session α) :
    Prop :=
  ∀ surroundings before, RunPasses schema course (session surroundings before)

namespace Passes

variable {schema : String} {course : List Phase}

theorem pure (value : α) : Passes schema [] (Pure.pure value : Session α) :=
  fun _ _ => ⟨[], List.nil_prefix, rfl, rfl, iff_of_true ⟨value, rfl⟩ rfl⟩

/-- To reach a phase is the first step of a course that begins with it. -/
theorem reach_bind {phase : Phase} {next : Unit → Session α}
    (passes : (next ()).Passes schema course) :
    (reach phase schema >>= next).Passes schema (phase :: course) := by
  intro surroundings before
  have run : reach phase schema surroundings before =
    (.ok (), ⟨[], [.phaseReached phase schema], 0, some phase⟩) := rfl
  obtain ⟨passed, inOrder, told, reached, succeeds⟩ :=
    passes surroundings (Record.append before _)
  rw [bind_of_ok run]
  refine ⟨phase :: passed, List.cons_prefix_cons.mpr ⟨rfl, inOrder⟩, ?_, ?_, ?_⟩
  · rw [Journal.phases_append, told]
    rfl
  · show Option.or _ (some phase) = _
    rw [reached, List.getLast?_cons]
    cases passed.getLast? <;> rfl
  · rw [succeeds, List.cons.injEq, and_iff_right rfl]

/-- What happens before the first phase of a course may fail, but reaches
nothing. -/
theorem of_stays_bind {first : Session α} {next : α → Session β}
    (stays : first.StaysInPhase) (remaining : course ≠ [])
    (passes : ∀ value, (next value).Passes schema course) :
    (first >>= next).Passes schema course := by
  intro surroundings before
  have told := stays.phases surroundings before
  have reached := stays.reached surroundings before
  cases run : first surroundings before with
  | mk outcome made =>
      rw [run] at told reached
      cases outcome with
      | error cause =>
          rw [bind_of_error run]
          exact ⟨[], List.nil_prefix, told, reached,
            iff_of_false nofun remaining.symm⟩
      | ok value =>
          obtain ⟨passed, inOrder, toldLater, reachedLater, succeeds⟩ :=
            passes value surroundings (Record.append before made)
          rw [bind_of_ok run]
          refine ⟨passed, inOrder, ?_, ?_, succeeds⟩
          · rw [Journal.phases_append, told, toldLater]
            rfl
          · show Option.or _ made.reached = _
            rw [reached, reachedLater, Option.or_none]

end Passes

end Session

namespace Build

open Recorded Session

theorem staysInPhase_backedTables (adapter : Adapter) (schema : String) :
    (backedTables adapter schema).StaysInPhase :=
  composed_backedTables (fun _ _ => rfl) trivial trivial

theorem staysInPhase_mergeViews (tables : NameMap Relation)
    (views : List (String × Relation)) :
    (mergeViews tables views).StaysInPhase :=
  composed_mergeViews (fun _ => rfl) tables views

theorem staysInPhase_registerPlaces (map : NameMap Place)
    (named : List (String × Place)) :
    (registerPlaces map named).StaysInPhase :=
  composed_registerPlaces map named

theorem exists_passes_graph (adapter : Adapter) (options : Options) :
    ∃ rest : String → Session Graph,
      graph adapter options =
        Session.ask (schemaToLoad adapter options) >>= rest ∧
      ∀ schema, (rest schema).Passes schema Phase.course := by
  refine ⟨_, rfl, fun schema => ?_⟩
  refine .of_stays_bind (.ask _) (List.cons_ne_nil _ _) fun enumerations => ?_
  refine .reach_bind ?_
  refine .of_stays_bind (.ask _) (List.cons_ne_nil _ _) fun routines => ?_
  refine .reach_bind ?_
  refine .of_stays_bind (staysInPhase_backedTables adapter schema)
    (List.cons_ne_nil _ _) fun backed => ?_
  refine .of_stays_bind (.ask _) (List.cons_ne_nil _ _) fun tables => ?_
  refine .reach_bind ?_
  refine .of_stays_bind (.ask _) (List.cons_ne_nil _ _) fun views => ?_
  refine .reach_bind ?_
  refine .of_stays_bind (staysInPhase_mergeViews _ _) (List.cons_ne_nil _ _)
    fun relations => ?_
  refine .reach_bind ?_
  refine .of_stays_bind (.ask _) (List.cons_ne_nil _ _) fun owned => ?_
  refine .of_stays_bind (staysInPhase_registerPlaces _ _) (List.cons_ne_nil _ _)
    fun foreignKeys => ?_
  refine .reach_bind ?_
  refine .of_stays_bind (.ask _) (List.cons_ne_nil _ _) fun ownedIndexes => ?_
  refine .reach_bind ?_
  refine .reach_bind ?_
  exact .pure _

/-- Every run of a build passes the course of the phases, with the schema that
it found before the first of them. -/
theorem exists_runPasses_graph (adapter : Adapter) (options : Options)
    (surroundings : Surroundings) (before : Journal) :
    ∃ schema, RunPasses schema Phase.course
        (graph adapter options surroundings before) ∧
      ((graph adapter options surroundings before).2.phases ≠ [] →
        (schemaToLoad adapter options surroundings.connection
          before.requests).1 = .ok schema) := by
  obtain ⟨rest, shape, passes⟩ := exists_passes_graph adapter options
  have asks := Session.ask_apply (schemaToLoad adapter options) surroundings
    before
  rw [shape]
  cases found : (schemaToLoad adapter options surroundings.connection
      before.requests).1 with
  | error cause =>
      rw [found] at asks
      rw [bind_of_error asks]
      exact ⟨"", ⟨[], List.nil_prefix, rfl, rfl, iff_of_false nofun nofun⟩,
        fun told => absurd rfl told⟩
  | ok schema =>
      rw [found] at asks
      obtain ⟨passed, inOrder, told, reached, succeeds⟩ := passes schema
        surroundings (Record.append before (.ofRequests _))
      rw [bind_of_ok asks]
      refine ⟨schema, ⟨passed, inOrder, ?_, ?_, succeeds⟩, fun _ => rfl⟩
      · rw [Journal.phases_append, told]
        rfl
      · exact (Option.or_none).trans reached

end Build

/-- A build went forward through its phases: it told a beginning of the course,
each phase with the schema of the build; the machine accepts every one of these
moves and ends where the build is said to have ended; and the build is done
exactly if it succeeded. -/
structure BuildReport.GoesForward (adapter : Adapter) (options : Options)
    (connection : Connection) (report : BuildReport) : Prop where
  inOrder : ∃ schema passed, passed <+: Phase.course ∧
    report.journal.phases = passed.map (fun phase => (phase, schema)) ∧
    (report.journal.phases ≠ [] →
      (Build.schemaToLoad adapter options connection []).1 = .ok schema)
  last : report.phase =
    (report.journal.phases.map Prod.fst).getLast?.getD .init
  advances : (report.journal.phases.map Prod.fst).foldlM Phase.advance? .init =
    some report.phase
  done : report.phase = .done ↔ ∃ graph, report.outcome = .ok graph

namespace GraphBuilder

open Build

theorem goesForward_build (builder : GraphBuilder)
    (surroundings : Surroundings) :
    (builder.build surroundings).1.GoesForward builder.adapter builder.options
      surroundings.connection := by
  obtain ⟨schema, ⟨passed, inOrder, told, reached, succeeds⟩, found⟩ :=
    Build.exists_runPasses_graph builder.adapter builder.options surroundings
      Journal.none
  rw [← journal_build] at told reached found
  rw [← outcome_build] at succeeds
  have ended : (builder.build surroundings).1.phase =
      passed.getLast?.getD .init := by
    rw [phase_build, reached]
  have names : (builder.build surroundings).1.journal.phases.map Prod.fst =
      passed := by
    rw [told, List.map_map]
    exact List.map_id passed
  constructor
  case inOrder => exact ⟨schema, passed, inOrder, told, found⟩
  case last => rw [names, ended]
  case advances =>
    rw [names, ended]
    apply Phase.foldlM_advance?_of_isChain
    exact Phase.isChain_course.prefix (List.cons_prefix_cons.mpr ⟨rfl, inOrder⟩)
  case done =>
    rw [ended, Phase.getLast?_eq_done_iff inOrder]
    exact succeeds.symm

/-- The calls of a builder one after the other, each in surroundings of its own.
Each reports, and leaves a builder for the next. -/
def calls (builder : GraphBuilder) :
    List Surroundings → List (BuildReport × GraphBuilder)
  | [] => []
  | surroundings :: rest =>
    builder.build surroundings :: (builder.build surroundings).2.calls rest

/-- What a call of a builder leads to: a report like that of a new builder,
which goes forward through the phases, and a builder in the phase that was
reached. -/
structure Calls (builder : GraphBuilder) (surroundings : Surroundings)
    (call : BuildReport × GraphBuilder) : Prop where
  likeNew : call.1 =
    ((new builder.adapter builder.options).build surroundings).1
  leaves : call.2 = ⟨builder.adapter, builder.options, call.1.phase⟩
  goesForward : call.1.GoesForward builder.adapter builder.options
    surroundings.connection

/-- However often a builder is called, and however its calls end, each of them
goes forward through the phases as if it were the first. -/
theorem calls_goForward (builder : GraphBuilder)
    (surroundings : List Surroundings) :
    List.Forall₂ builder.Calls surroundings (builder.calls surroundings) := by
  have anyPhase : ∀ phase, List.Forall₂ builder.Calls surroundings
      ({ builder with phase }.calls surroundings) := by
    induction surroundings with
    | nil => exact fun _ => .nil
    | cons first rest ih =>
        intro phase
        -- Only the phase of the builder changes, and a call does not read it.
        have leaves : ({ builder with phase }.build first).2 =
            { builder with
              phase := ({ builder with phase }.build first).1.phase } := by
          rw [build_eq]
        have likeNew : ({ builder with phase }.build first).1 =
            ((new builder.adapter builder.options).build first).1 := by
          rw [build_eq, build_eq]
          rfl
        rw [calls, leaves]
        exact .cons ⟨likeNew, leaves,
          goesForward_build { builder with phase } first⟩
          (ih _)
  exact anyPhase builder.phase

/-- A session with an empty catalog that refuses queries about a topic. -/
def refusing (topic : Topic) : Surroundings where
  connection := .scripted
    (fun query _ =>
      if query.topic = topic then .error (.failure "refused") else .ok [])
    fun _ => .ok ()
  random := ⟨fun _ => 0, 1⟩

example :
    ((new .sqlite .standard).calls
      [refusing .tables, refusing .viewSchema, refusing .tables]).map
        (fun call => call.2.phase) =
          [.routinesLoaded, .done, .routinesLoaded] := by
  decide

end GraphBuilder

end SchemaAtlas
