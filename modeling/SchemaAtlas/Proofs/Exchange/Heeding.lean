import SchemaAtlas.Proofs.Exchange.Asking
import SchemaAtlas.Proofs.Exchange.Sessions

/-!
# Sessions that heed faults

The first answer at fault ends a session: no query comes after it, and its error
is the outcome.  Only the two probes are exempt.  A probe at fault is told, and
the session asks on.

Both are statements about what was asked and told after something else.  They
compose along a session, because what was asked before decides how the
connection answers.
-/

namespace SchemaAtlas

/-- The probe that a request belongs to. -/
def Request.probe? : Request → Option Probe
  | .query inquired _ => inquired.topic.probe?
  | .execute _ => none

/-- The fault of the answer to a request, after what was asked before. -/
def Connection.fault? (connection : Connection) (engine : Engine)
    (before : List Request) : Request → Option DriverError
  | .query query parameters =>
    query.topic.fault? engine (connection.query before query parameters)
  | .execute sql => DriverError.of? (connection.execute before sql)

/-- The probe whose failure an event tells, and the cause. -/
def Event.failedProbe? : Event → Option (Probe × Error)
  | .probeFailed probe cause _ => some (probe, cause)
  | _ => none

/-- The probes among requests whose answers are at fault, in order, with the
errors of the answers. -/
def Connection.failedProbes (connection : Connection) (engine : Engine) :
    List Request → List Request → List (Probe × Error)
  | _, [] => []
  | before, request :: rest =>
    (request.probe?.bind fun probe =>
        (connection.fault? engine before request).map fun cause =>
          (probe, Error.driver cause)).toList ++
      connection.failedProbes engine (before ++ [request]) rest

section Asked

variable {engine : Engine} {connection : Connection}
  {before asked more : List Request} {α β : Type}

theorem Connection.failedProbes_append (before asked more : List Request) :
    connection.failedProbes engine before (asked ++ more) =
      connection.failedProbes engine before asked ++
        connection.failedProbes engine (before ++ asked) more := by
  induction asked generalizing before with
  | nil => simp [failedProbes]
  | cons request rest ih =>
      rw [List.cons_append, failedProbes, failedProbes, ih, List.append_assoc,
        List.append_assoc, List.singleton_append]

private theorem Connection.failedProbes_of_none
    (noProbe : ∀ request ∈ asked, request.probe? = none) :
    connection.failedProbes engine before asked = [] := by
  induction asked generalizing before with
  | nil => rfl
  | cons request rest ih =>
      rw [List.forall_mem_cons] at noProbe
      rw [failedProbes, noProbe.1, ih noProbe.2]
      rfl

theorem Connection.failedProbes_singleton (connection : Connection)
    (engine : Engine) (before : List Request) {request : Request}
    {probe : Probe} (isProbe : request.probe? = some probe) :
    connection.failedProbes engine before [request] =
      ((connection.fault? engine before request).map fun cause =>
        (probe, Error.driver cause)).toList := by
  simp [failedProbes, isProbe]

/-- After other requests only queries were asked, and an answer at fault was the
last one and gave the outcome, unless it was that to a probe. -/
structure EndsAtFault (engine : Engine) (connection : Connection)
    (before asked : List Request) (outcome : Except Error α) : Prop where
  isQuery : ∀ request ∈ asked, request.IsQuery
  ends : ∀ {front request rest cause}, asked = front ++ request :: rest →
    request.probe? = none →
    connection.fault? engine (before ++ front) request = some cause →
      rest = [] ∧ outcome = .error (.driver cause)

namespace EndsAtFault

theorem nil (outcome : Except Error α) :
    EndsAtFault engine connection before [] outcome where
  isQuery := by
    intro request membership
    cases membership
  ends := by
    intro front request rest cause shape
    simp at shape

/-- The answer to a probe ends nothing. -/
theorem singleton {request : Request} {probe : Probe}
    (isProbe : request.probe? = some probe) (outcome : Except Error α) :
    EndsAtFault engine connection before [request] outcome where
  isQuery := by
    intro other membership
    rw [List.mem_singleton.mp membership]
    cases request with
    | query => trivial
    | execute => cases isProbe
  ends := by
    intro front other rest cause shape noProbe
    have inside : other ∈ [request] := by simp [shape]
    rw [List.mem_singleton.mp inside, isProbe] at noProbe
    cases noProbe

theorem append {value : α} {outcome : Except Error β}
    (first : EndsAtFault engine connection before asked
      (.ok value : Except Error α))
    (next : EndsAtFault engine connection (before ++ asked) more outcome) :
    EndsAtFault engine connection before (asked ++ more) outcome where
  isQuery := by
    intro request membership
    rcases List.mem_append.mp membership with early | late
    · exact first.isQuery request early
    · exact next.isQuery request late
  ends := by
    intro front request rest cause shape noProbe fault
    rcases List.append_eq_append_iff.mp shape with
      ⟨between, rfl, behind⟩ | ⟨between, inFirst, behind⟩
    · rw [← List.append_assoc] at fault
      exact next.ends behind noProbe fault
    · cases between with
      | nil =>
          rw [List.append_nil] at inFirst
          subst inFirst
          rw [← List.append_nil (before ++ asked)] at fault
          have first : more = [] ++ request :: rest := behind.symm
          exact next.ends first noProbe fault
      | cons other between =>
          cases behind
          -- A fault of the first part would have been its outcome.
          have failed := (first.ends inFirst noProbe fault).2
          cases failed

theorem error {cause : Error}
    (failed : EndsAtFault engine connection before asked
      (.error cause : Except Error α)) :
    EndsAtFault engine connection before asked
      (.error cause : Except Error β) where
  isQuery := failed.isQuery
  ends := by
    intro front request rest fault shape noProbe atFault
    obtain ⟨last, same⟩ := failed.ends shape noProbe atFault
    cases same
    exact ⟨last, rfl⟩

end EndsAtFault

end Asked

/-- An inquiry ends with its first answer at fault. -/
theorem Inquiry.Reads.endsAtFault {engine : Engine} {topics : Topic → Prop}
    {α : Type} {inquiry : Inquiry α} (reads : inquiry.Reads engine topics)
    (connection : Connection) (before : List Request) :
    EndsAtFault engine connection before (inquiry connection before).2
      (inquiry connection before).1 := by
  induction reads generalizing before with
  | known outcome => exact .nil outcome
  | asking parameters _ readBy =>
      rename_i query use _
      constructor
      case isQuery =>
        intro request membership
        rw [List.mem_singleton.mp membership]
        trivial
      case ends =>
        intro front request rest cause shape _ fault
        cases front with
        | nil =>
            cases shape
            rw [List.append_nil] at fault
            have failed := DriverError.eq_error_of_of? ((readBy _).trans fault)
            refine ⟨rfl, ?_⟩
            rw [Inquiry.asking, failed]
            rfl
        | cons other front =>
            have tooLong := congrArg List.length shape
            simp [Inquiry.asking] at tooLong
  | bind _ _ ihFirst ihNext =>
      rename_i first next _ _
      cases run : first connection before with
      | mk outcome asked =>
          have firstEnds := ihFirst before
          rw [run] at firstEnds
          cases outcome with
          | error cause =>
              rw [Recorded.bind_of_error run]
              exact firstEnds.error
          | ok value =>
              rw [Recorded.bind_of_ok run]
              exact firstEnds.append (ihNext value (before ++ asked))

/-- A session ended with its first answer at fault, and told of the probes at
fault. -/
structure HeedsFaults (engine : Engine) (connection : Connection)
    (before : List Request) {α : Type} (outcome : Except Error α)
    (journal : Journal) : Prop where
  endsAtFault :
    EndsAtFault engine connection before journal.requests outcome
  tellsProbes : journal.events.filterMap Event.failedProbe? =
    connection.failedProbes engine before journal.requests

theorem HeedsFaults.append {engine : Engine} {connection : Connection}
    {before : List Request} {α β : Type} {value : α} {outcome : Except Error β}
    {made more : Journal}
    (first : HeedsFaults engine connection before (.ok value : Except Error α)
      made)
    (next : HeedsFaults engine connection (before ++ made.requests) outcome
      more) :
    HeedsFaults engine connection before outcome (Record.append made more) where
  endsAtFault := first.endsAtFault.append next.endsAtFault
  tellsProbes := by
    rw [Journal.events_append, List.filterMap_append, first.tellsProbes,
      next.tellsProbes, Journal.requests_append,
      Connection.failedProbes_append]

namespace Session

open Recorded

variable {engine : Engine} {α β : Type}

/-- A session asks no probes and tells of none. -/
inductive Plain (engine : Engine) : {α : Type} → Session α → Prop where
  | ask {α : Type} {inquiry : Inquiry α}
      (reads : inquiry.Reads engine fun topic => topic.probe? = none) :
      Plain engine (ask inquiry)
  | quiet {α : Type} {session : Session α}
      (asksNothing : ∀ surroundings before,
        (session surroundings before).2.requests = [])
      (tellsNoProbe : ∀ surroundings before,
        (session surroundings before).2.events.filterMap
          Event.failedProbe? = []) :
      Plain engine session
  | bind {α β : Type} {first : Session α} {next : α → Session β} :
      Plain engine first → (∀ value, Plain engine (next value)) →
      Plain engine (first >>= next)

/-- Every run of a session heeds the faults of answers. -/
def Heeds (engine : Engine) (session : Session α) : Prop :=
  ∀ surroundings before,
    HeedsFaults engine surroundings.connection before.requests
      (session surroundings before).1 (session surroundings before).2

/-- No run of a session ends with a probe, whatever the answer to it. -/
def GoesOn (session : Session α) : Prop :=
  ∀ surroundings before front request,
    (session surroundings before).2.requests = front ++ [request] →
      request.probe? = none

theorem Heeds.bind {first : Session α} {next : α → Session β}
    (firstHeeds : first.Heeds engine)
    (nextHeeds : ∀ value, (next value).Heeds engine) :
    (first >>= next).Heeds engine := by
  intro surroundings before
  have heeds := firstHeeds surroundings before
  cases run : first surroundings before with
  | mk outcome made =>
      rw [run] at heeds
      cases outcome with
      | error cause =>
          rw [bind_of_error run]
          exact ⟨heeds.endsAtFault.error, heeds.tellsProbes⟩
      | ok value =>
          rw [bind_of_ok run]
          exact heeds.append
            (nextHeeds value surroundings (Record.append before made))

namespace Plain

theorem pure (value : α) : Plain engine (pure value : Session α) :=
  .quiet (fun _ _ => rfl) fun _ _ => rfl

theorem throw (cause : Error) : Plain engine (throw cause : Session α) :=
  .quiet (fun _ _ => rfl) fun _ _ => rfl

theorem tell {event : Event} (noProbe : event.failedProbe? = none) :
    Plain engine (tell event) := by
  refine .quiet (fun _ _ => rfl) fun _ _ => ?_
  show [event].filterMap Event.failedProbe? = []
  rw [List.filterMap_cons_none noProbe]
  rfl

theorem reach (phase : Phase) (schema : String) :
    Plain engine (reach phase schema) :=
  .quiet (fun _ _ => rfl) fun _ _ => rfl

theorem of_searches {session : Session α} (searches : session.Searches) :
    Plain engine session := by
  refine .quiet (fun surroundings before => ?_) fun surroundings before => ?_
  · exact (searches.onlyDraws surroundings before).requests
  · rw [(searches.onlyDraws surroundings before).events]
    rfl

theorem probe?_eq_none {session : Session α} (plain : Plain engine session)
    (surroundings : Surroundings) (before : Journal) :
    ∀ request ∈ (session surroundings before).2.requests,
      request.probe? = none := by
  induction plain generalizing before with
  | ask reads =>
      intro request membership
      obtain ⟨query, parameters, rfl, noProbe⟩ :=
        reads.about_of_mem _ _ request membership
      exact noProbe
  | quiet asksNothing _ =>
      intro request membership
      rw [asksNothing] at membership
      cases membership
  | bind _ _ ihFirst ihNext =>
      rename_i first next _ _
      intro request membership
      have noProbe := ihFirst before request
      cases run : first surroundings before with
      | mk outcome made =>
          rw [run] at noProbe
          cases outcome with
          | error cause =>
              rw [bind_of_error run] at membership
              exact noProbe membership
          | ok value =>
              rw [bind_of_ok run] at membership
              rcases List.mem_append.mp membership with early | late
              · exact noProbe early
              · exact ihNext value _ request late

theorem heeds {session : Session α} (plain : Plain engine session) :
    session.Heeds engine := by
  induction plain with
  | ask reads =>
      intro surroundings before
      have noProbe := (Plain.ask reads).probe?_eq_none surroundings before
      refine ⟨reads.endsAtFault surroundings.connection before.requests, ?_⟩
      rw [Connection.failedProbes_of_none noProbe]
      rfl
  | quiet asksNothing tellsNoProbe =>
      intro surroundings before
      have asked := asksNothing surroundings before
      refine ⟨?_, ?_⟩
      · rw [asked]
        exact .nil _
      · rw [asked, tellsNoProbe]
        rfl
  | bind _ _ ihFirst ihNext => exact ihFirst.bind ihNext

theorem goesOn {session : Session α} (plain : Plain engine session) :
    session.GoesOn := by
  intro surroundings before front request shape
  apply plain.probe?_eq_none surroundings before
  rw [shape]
  exact List.mem_append_right _ List.mem_cons_self

end Plain

theorem GoesOn.bind {first : Session α} {next : α → Session β}
    (firstPlain : first.Plain engine)
    (nextGoesOn : ∀ value, (next value).GoesOn) :
    (first >>= next).GoesOn := by
  intro surroundings before front request shape
  cases run : first surroundings before with
  | mk outcome made =>
      have noProbe := firstPlain.goesOn surroundings before
      rw [run] at noProbe
      cases outcome with
      | error cause =>
          rw [bind_of_error run] at shape
          exact noProbe _ _ shape
      | ok value =>
          rw [bind_of_ok run, Journal.requests_append] at shape
          have others :=
            nextGoesOn value surroundings (Record.append before made)
          rcases List.append_eq_append_iff.mp shape with
            ⟨between, rfl, behind⟩ | ⟨between, inFirst, behind⟩
          · exact others _ _ behind
          · cases between with
            | nil => exact others [] request behind.symm
            | cons other between =>
                obtain ⟨rfl, nothing⟩ := List.cons.inj behind
                rw [(List.append_eq_nil_iff.mp nothing.symm).1] at inFirst
                exact noProbe _ _ inFirst

/-- Every run of a session heeds the faults of answers, and none ends with a
probe. -/
structure FailsFast (engine : Engine) (session : Session α) : Prop where
  heeds : session.Heeds engine
  goesOn : session.GoesOn

theorem FailsFast.bind {first : Session α} {next : α → Session β}
    (firstPlain : first.Plain engine)
    (nextFailsFast : ∀ value, (next value).FailsFast engine) :
    (first >>= next).FailsFast engine where
  heeds := firstPlain.heeds.bind fun value => (nextFailsFast value).heeds
  goesOn := .bind firstPlain fun value => (nextFailsFast value).goesOn

end Session

end SchemaAtlas
