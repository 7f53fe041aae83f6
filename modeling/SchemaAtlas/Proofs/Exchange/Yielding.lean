import SchemaAtlas.Proofs.Exchange.Reordering

/-!
# What computations leave

A run that succeeds is taken apart together with its record: the record of two
computations in a row is that of the one followed by that of the other, and the
record of a computation over a list is put together from those for the items.

Over a scripted connection an inquiry of the library reports the same and asks
the same whenever it is made, so both are functions of the connection.
-/

namespace SchemaAtlas

namespace Recorded

variable {ε ω α β : Type}

/-- Some run of a computation returns a value and leaves a record. -/
def Yields (body : Recorded ε ω α) (surroundings : ε) (value : α) (made : ω) :
    Prop :=
  ∃ before, body surroundings before = (.ok value, made)

variable {surroundings : ε} {made : ω}

theorem Yields.returns {body : Recorded ε ω α} {value : α}
    (yields : body.Yields surroundings value made) :
    body.Returns surroundings value := by
  obtain ⟨before, run⟩ := yields
  exact returns_of_eq run

theorem Returns.yields {body : Recorded ε ω α} {value : α}
    (returns : body.Returns surroundings value) :
    ∃ made, body.Yields surroundings value made := by
  obtain ⟨before, outcome⟩ := returns
  exact ⟨_, before, Prod.ext outcome rfl⟩

variable [Record ω]

theorem Yields.pure {value returned : α}
    (yields : (Pure.pure value : Recorded ε ω α).Yields surroundings returned
      made) :
    returned = value ∧ made = Record.none := by
  obtain ⟨before, run⟩ := yields
  rw [pure_apply] at run
  cases run
  exact ⟨rfl, rfl⟩

theorem Yields.bind {first : Recorded ε ω α} {next : α → Recorded ε ω β}
    {returned : β}
    (yields : (first >>= next).Yields surroundings returned made) :
    ∃ value early late, first.Yields surroundings value early ∧
      (next value).Yields surroundings returned late ∧
      made = Record.append early late := by
  obtain ⟨before, run⟩ := yields
  cases firstRun : first surroundings before with
  | mk outcome early =>
      cases outcome with
      | error cause =>
          rw [bind_of_error firstRun] at run
          cases run
      | ok value =>
          rw [bind_of_ok firstRun] at run
          obtain ⟨found, rfl⟩ := Prod.mk.inj run
          exact ⟨value, early, _, ⟨before, firstRun⟩,
            ⟨_, Prod.ext found rfl⟩, rfl⟩

/-- What is made of the value in the end leaves nothing. -/
theorem Yields.map {first : Recorded ε ω α} {make : α → β} {returned : β}
    (yields : (first >>= fun value => Pure.pure (make value)).Yields
      surroundings returned made) :
    ∃ value, first.Yields surroundings value made ∧ returned = make value := by
  obtain ⟨value, early, late, yieldsFirst, yieldsLast, rfl⟩ := yields.bind
  obtain ⟨rfl, rfl⟩ := yieldsLast.pure
  refine ⟨value, ?_, rfl⟩
  rwa [Record.append_none]

end Recorded

/-- A query is answered with rows when it is the first request. -/
def Connection.Answers (connection : Connection) (request : Request)
    (rows : List Catalog.Row) : Prop :=
  ∃ query parameters, request = .query query parameters ∧
    connection.query [] query parameters = .ok rows

namespace Inquiry

open Recorded

variable {α β : Type} {connection : Connection} {asked : List Request}

/-- A list is found if the query is answered and every row reports an item. -/
theorem finding_listOf_eq_ok_iff {read : Catalog.Row → Except DriverError α}
    {reports : Catalog.Row → α → Prop}
    (reads : ∀ {row item}, read row = .ok item ↔ reports row item)
    (query : CatalogQuery) (parameters : List String)
    (connection : Connection) {items : List α} :
    (listOf read query parameters).finding connection = .ok items ↔
      ∃ rows, connection.Answers (.query query parameters) rows ∧
        List.Forall₂ reports rows items := by
  rw [finding, listOf_eq_asking, asking]
  constructor
  · intro found
    cases answered : connection.query [] query parameters with
    | error cause =>
        rw [answered] at found
        cases found
    | ok rows =>
        rw [answered] at found
        have run : rows.mapM read = .ok items := by
          change liftDriver (rows.mapM read) = .ok items at found
          cases run : rows.mapM read with
          | error cause => rw [run] at found; cases found
          | ok values => rw [run] at found; cases found; rfl
        exact ⟨rows, ⟨query, parameters, rfl, answered⟩,
          (forall₂_of_mapM_eq_ok run).imp fun _ _ => reads.mp⟩
  · rintro ⟨rows, ⟨_, _, ⟨⟩, answered⟩, each⟩
    have run : rows.mapM read = .ok items :=
      mapM_eq_ok_of_forall₂ (each.imp fun _ _ => reads.mpr)
    show liftDriver (connection.query [] query parameters >>= _) = _
    rw [answered]
    show liftDriver (rows.mapM read) = _
    rw [run]
    rfl

theorem asked_listOf (read : Catalog.Row → Except DriverError α)
    (query : CatalogQuery) (parameters : List String) (connection : Connection)
    (before : List Request) :
    (listOf read query parameters connection before).2 =
      [.query query parameters] := by
  rw [listOf_eq_asking]
  rfl

theorem asked_value? (query : CatalogQuery) (parameters : List String)
    (connection : Connection) (before : List Request) :
    (value? query parameters connection before).2 =
      [.query query parameters] := by
  rw [value?_eq_asking]
  rfl

/-- What follows an inquiry and asks nothing does not show in the record. -/
theorem asked_bind_of_silent {first : Inquiry α} {next : α → Inquiry β}
    (silent : ∀ value before, (next value connection before).2 = [])
    (before : List Request) :
    ((first >>= next) connection before).2 = (first connection before).2 := by
  cases run : first connection before with
  | mk outcome asked =>
      cases outcome with
      | error cause => rw [bind_of_error run]
      | ok value =>
          rw [bind_of_ok run, silent value]
          exact Record.append_none asked

theorem asked_of_yields {inquiry : Inquiry α} {requests : List Request}
    (always : ∀ before, (inquiry connection before).2 = requests) {value : α}
    (yields : inquiry.Yields connection value asked) : asked = requests := by
  obtain ⟨before, run⟩ := yields
  rw [← always before, run]

/-- Where the record for an item is known, that for a list is put together of
those for its items. -/
theorem asked_of_yields_mapM {step : α → Inquiry β} {asks : α → List Request}
    (each : ∀ item value asked,
      (step item).Yields connection value asked → asked = asks item)
    {items : List α} {values : List β}
    (yields : (items.mapM step).Yields connection values asked) :
    asked = items.flatMap asks := by
  induction items generalizing values asked with
  | nil =>
      rw [List.mapM_nil] at yields
      exact yields.pure.2
  | cons item rest ih =>
      rw [List.mapM_cons] at yields
      obtain ⟨value, early, late, first, others, rfl⟩ := yields.bind
      obtain ⟨more, yieldsRest, _⟩ := others.map
      rw [each item value early first, ih yieldsRest]
      rfl

/-- What an inquiry asks when it is the first. -/
def askedFirst (inquiry : Inquiry α) (connection : Connection) :
    List Request :=
  (inquiry connection []).2

/-- The items that an inquiry for a list reports: none if it fails. -/
def reported (inquiry : Inquiry (List α)) (connection : Connection) : List α :=
  (inquiry.finding connection).toOption.getD []

/-- An inquiry for a list succeeds, so what it reports is what it finds. -/
def Answered (inquiry : Inquiry (List α)) (connection : Connection) : Prop :=
  inquiry.finding connection = .ok (inquiry.reported connection)

section Scripted

variable {engine : Engine}
  {replies : CatalogQuery → List String →
    Except DriverError (List Catalog.Row)}
  {execution : String → Except DriverError Unit}

theorem Reads.eq_askedFirst {inquiry : Inquiry α}
    (reads : inquiry.Reads engine fun _ => True) {value : α}
    (yields : inquiry.Yields (.scripted replies execution) value asked) :
    asked = inquiry.askedFirst (.scripted replies execution) := by
  obtain ⟨before, run⟩ := yields
  rw [askedFirst, reads.anytime [] before, run]

theorem Reads.eq_reported {inquiry : Inquiry (List α)}
    (reads : inquiry.Reads engine fun _ => True) {items : List α}
    (yields : inquiry.Yields (.scripted replies execution) items asked) :
    items = inquiry.reported (.scripted replies execution) := by
  obtain ⟨before, run⟩ := yields
  rw [reported, finding, reads.anytime [] before, run]
  rfl

theorem Reads.answered {inquiry : Inquiry (List α)}
    (reads : inquiry.Reads engine fun _ => True)
    (scripted : connection = .scripted replies execution) {items : List α}
    (returns : inquiry.Returns connection items) :
    inquiry.Answered connection := by
  subst scripted
  obtain ⟨before, found⟩ := returns
  rw [reads.steady before] at found
  rw [Answered, reported, found]
  rfl

theorem Reads.about_of_mem_askedFirst {topics : Topic → Prop}
    {inquiry : Inquiry α} (reads : inquiry.Reads engine topics)
    (connection : Connection) :
    ∀ request ∈ inquiry.askedFirst connection, ∃ query parameters,
      request = .query query parameters ∧ topics query.topic :=
  reads.about_of_mem connection []

end Scripted

end Inquiry

namespace Session

open Recorded

variable {α β : Type} {surroundings : Surroundings} {made : Journal}

/-- The journal of a session that asks first begins with what it asks. -/
theorem journal_of_yields_ask {inquiry : Inquiry α} {next : α → Session β}
    {returned : β}
    (yields : (ask inquiry >>= next).Yields surroundings returned made) :
    ∃ value asked rest, inquiry.Yields surroundings.connection value asked ∧
      (next value).Yields surroundings returned rest ∧
      made = Record.append (.ofRequests asked) rest := by
  obtain ⟨value, early, rest, asks, goesOn, rfl⟩ := yields.bind
  obtain ⟨before, run⟩ := asks
  rw [ask_apply] at run
  obtain ⟨found, rfl⟩ := Prod.mk.inj run
  exact ⟨value, _, rest, ⟨before.requests, Prod.ext found rfl⟩, goesOn, rfl⟩

/-- What is asked first comes before what the rest of a session asks. -/
theorem yields_of_ask {inquiry : Inquiry α} {next : α → Session β}
    {returned : β}
    (yields : (ask inquiry >>= next).Yields surroundings returned made) :
    ∃ value asked rest, inquiry.Yields surroundings.connection value asked ∧
      (next value).Yields surroundings returned rest ∧
      made.requests = asked ++ rest.requests := by
  obtain ⟨value, asked, rest, asks, goesOn, rfl⟩ := journal_of_yields_ask yields
  exact ⟨value, asked, rest, asks, goesOn, rfl⟩

/-- The journal of a session that reaches a phase first begins with it. -/
theorem journal_of_yields_reach {phase : Phase} {schema : String}
    {next : Unit → Session β} {returned : β}
    (yields : (reach phase schema >>= next).Yields surroundings returned made) :
    ∃ rest, (next ()).Yields surroundings returned rest ∧
      made = Record.append (.ofReached phase schema) rest := by
  obtain ⟨_, early, rest, reaches, goesOn, rfl⟩ := yields.bind
  obtain ⟨before, run⟩ := reaches
  cases run
  exact ⟨rest, goesOn, rfl⟩

theorem yields_of_reach {phase : Phase} {schema : String}
    {next : Unit → Session β} {returned : β}
    (yields : (reach phase schema >>= next).Yields surroundings returned made) :
    ∃ rest, (next ()).Yields surroundings returned rest ∧
      made.requests = rest.requests := by
  obtain ⟨rest, goesOn, rfl⟩ := journal_of_yields_reach yields
  exact ⟨rest, goesOn, rfl⟩

theorem Searches.requests_of_yields {session : Session α} {value : α}
    (searches : session.Searches)
    (yields : session.Yields surroundings value made) : made.requests = [] := by
  obtain ⟨before, run⟩ := yields
  have same := (searches.onlyDraws surroundings before).requests
  rwa [run] at same

end Session

end SchemaAtlas
