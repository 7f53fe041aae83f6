import SchemaAtlas.Proofs.Exchange.Faults
import SchemaAtlas.Proofs.Exchange.Returning

/-!
# Inquiries that only ask

An inquiry of the library is composed of queries whose answers are read as those
of an engine.  It records no statement, and what it does depends on a connection
only by the answers about its topics.
-/

namespace SchemaAtlas

open Catalog

/-- A request is a catalog query. -/
def Request.IsQuery : Request → Prop
  | .query .. => True
  | .execute _ => False

namespace Inquiry

variable {engine : Engine} {topics : Topic → Prop} {α β : Type}

/-- Ask one query and make something of the rows. -/
def asking (query : CatalogQuery) (parameters : List String)
    (use : List Row → Except DriverError α) : Inquiry α :=
  fun connection before =>
    (liftDriver (connection.query before query parameters >>= use),
      [.query query parameters])

/-- The text in the first column of the first row, as far as there is one. -/
def firstText? : List Row → Except DriverError (Option String)
  | [] => .ok none
  | row :: _ => row.optionalText 0

theorem listOf_eq_asking (read : Row → Except DriverError α)
    (query : CatalogQuery) (parameters : List String) :
    listOf read query parameters =
      asking query parameters fun rows => rows.mapM read := by
  funext connection before
  rw [listOf, Recorded.bind_apply, rows, asking]
  cases connection.query before query parameters <;> rfl

theorem value?_eq_asking (query : CatalogQuery) (parameters : List String) :
    value? query parameters = asking query parameters firstText? := by
  funext connection before
  rw [value?, Recorded.bind_apply, rows, asking]
  cases connection.query before query parameters with
  | error cause => rfl
  | ok found => cases found <;> rfl

theorem readBy_firstText? {topic : Topic}
    (isSingle : topic.isSingle engine = true) :
    topic.ReadBy engine firstText? := by
  intro answer
  cases answer with
  | error cause => rfl
  | ok rows =>
      have first : topic.rowsRead engine rows = rows.take 1 := by
        rw [Topic.rowsRead, isSingle]
        rfl
      rw [Topic.fault?, first, funext (Topic.rowFault?_of_isSingle isSingle)]
      cases rows with
      | nil => rfl
      | cons row rest =>
          show DriverError.of? (row.optionalText 0) =
            [row].findSome? fun row => DriverError.of? (row.optionalText 0)
          rw [List.findSome?_singleton]

/-- An inquiry is composed of queries about the given topics, whose answers are
read as those of an engine, and of outcomes that are known without asking. -/
inductive Reads (engine : Engine) (topics : Topic → Prop) :
    {α : Type} → Inquiry α → Prop where
  | known {α : Type} (outcome : Except Error α) :
      Reads engine topics (Recorded.ofExcept outcome)
  | asking {α : Type} {query : CatalogQuery} (parameters : List String)
      {use : List Row → Except DriverError α}
      (about : topics query.topic) (readBy : query.topic.ReadBy engine use) :
      Reads engine topics (asking query parameters use)
  | bind {α β : Type} {first : Inquiry α} {next : α → Inquiry β} :
      Reads engine topics first → (∀ value, Reads engine topics (next value)) →
      Reads engine topics (first >>= next)

namespace Reads

theorem pure (value : α) : Reads engine topics (pure value) :=
  .known (.ok value)

theorem throw (cause : Error) :
    Reads engine topics (throw cause : Inquiry α) :=
  .known (.error cause)

theorem listOf {read : Row → Except DriverError α} {query : CatalogQuery}
    (about : topics query.topic)
    (isList : query.topic.isSingle engine = false)
    (readsRow : ∀ row,
      DriverError.of? (read row) = query.topic.rowFault? engine row)
    (parameters : List String) :
    Reads engine topics (listOf read query parameters) :=
  listOf_eq_asking read query parameters ▸
    .asking parameters about (Topic.readBy_mapM isList readsRow)

theorem value? {query : CatalogQuery} (about : topics query.topic)
    (isSingle : query.topic.isSingle engine = true)
    (parameters : List String) :
    Reads engine topics (value? query parameters) :=
  value?_eq_asking query parameters ▸
    .asking parameters about (readBy_firstText? isSingle)

theorem mapM {step : α → Inquiry β}
    (each : ∀ item, Reads engine topics (step item)) (items : List α) :
    Reads engine topics (items.mapM step) := by
  induction items with
  | nil =>
      rw [List.mapM_nil]
      exact pure []
  | cons item rest ih =>
      rw [List.mapM_cons]
      exact (each item).bind fun value => ih.bind fun values =>
        pure (value :: values)

theorem about_of_mem {inquiry : Inquiry α} (reads : Reads engine topics inquiry)
    (connection : Connection) (before : List Request) :
    ∀ request ∈ (inquiry connection before).2, ∃ query parameters,
      request = .query query parameters ∧ topics query.topic := by
  induction reads generalizing before with
  | known outcome =>
      intro request membership
      cases membership
  | asking parameters about _ =>
      intro request membership
      exact ⟨_, parameters, List.mem_singleton.mp membership, about⟩
  | bind _ _ ihFirst ihNext =>
      rename_i first next _ _
      intro request membership
      cases run : first connection before with
      | mk outcome asked =>
          have inFirst := ihFirst before request
          rw [run] at inFirst
          cases outcome with
          | error cause =>
              rw [Recorded.bind_of_error run] at membership
              exact inFirst membership
          | ok value =>
              rw [Recorded.bind_of_ok run] at membership
              rcases List.mem_append.mp membership with early | late
              · exact inFirst early
              · exact ihNext value _ request late

/-- The answers about other topics do not matter. -/
theorem congr {inquiry : Inquiry α} (reads : Reads engine topics inquiry)
    {left right : Connection}
    (sameAnswers : ∀ history query parameters, topics query.topic →
      left.query history query parameters =
        right.query history query parameters)
    (before : List Request) : inquiry left before = inquiry right before := by
  induction reads generalizing before with
  | known outcome => rfl
  | asking parameters about _ =>
      rw [Inquiry.asking, Inquiry.asking, sameAnswers _ _ _ about]
  | bind _ _ ihFirst ihNext =>
      exact Recorded.bind_congr (ihFirst before) fun value _ => ihNext value _

end Reads

/-- An inquiry records catalog queries only, and the answers to statements do
not matter to it. -/
structure OnlyAsks (inquiry : Inquiry α) : Prop where
  isQuery : ∀ connection before, ∀ request ∈ (inquiry connection before).2,
    request.IsQuery
  congr : ∀ {left right : Connection}, left.query = right.query →
    ∀ before, inquiry left before = inquiry right before

theorem Reads.onlyAsks {inquiry : Inquiry α}
    (reads : Reads engine topics inquiry) : inquiry.OnlyAsks where
  isQuery := by
    intro connection before request membership
    obtain ⟨query, parameters, rfl, _⟩ :=
      reads.about_of_mem connection before request membership
    trivial
  congr := by
    intro left right sameAnswers before
    apply reads.congr
    intro history query parameters _
    rw [sameAnswers]

/-- An inquiry lists records about a topic, whose names stand in a column of the
rows. -/
inductive Lists (engine : Engine) (topic : Topic) (column : Nat)
    (name : α → String) : Inquiry (List α) → Prop where
  | rows {query : CatalogQuery} (parameters : List String)
      {read : Row → Except DriverError α} (about : query.topic = topic)
      (readsRow : ∀ row,
        DriverError.of? (read row) = topic.rowFault? engine row)
      (named : ∀ {row record}, read row = .ok record →
        row.text column = .ok (name record)) :
      Lists engine topic column name (listOf read query parameters)

namespace Lists

variable {topic : Topic} {column : Nat} {name : α → String}
  {inquiry : Inquiry (List α)}

theorem reads (lists : Lists engine topic column name inquiry)
    (about : topics topic) (isList : topic.isSingle engine = false) :
    Reads engine topics inquiry := by
  cases lists with
  | rows parameters same readsRow _ =>
      subst same
      exact .listOf about isList readsRow parameters

theorem asked_ne_nil (lists : Lists engine topic column name inquiry)
    (connection : Connection) (before : List Request) :
    (inquiry connection before).2 ≠ [] := by
  cases lists with
  | rows =>
      rw [listOf_eq_asking]
      exact List.cons_ne_nil _ _

end Lists

/-- An inquiry is a probe: it asks one query of that kind, or nothing where the
engine has none. -/
inductive Probes (engine : Engine) (kind : Probe) :
    Inquiry (List String) → Prop where
  | unasked : Probes engine kind (pure [])
  | asked {query : CatalogQuery} (parameters : List String)
      {use : List Row → Except DriverError (List String)}
      (isProbe : query.topic.probe? = some kind)
      (readBy : query.topic.ReadBy engine use) :
      Probes engine kind (asking query parameters use)

theorem Probes.reads {kind : Probe} {inquiry : Inquiry (List String)}
    (probes : Probes engine kind inquiry)
    (about : ∀ topic : Topic, topic.probe? = some kind → topics topic) :
    Reads engine topics inquiry := by
  cases probes with
  | unasked => exact .pure []
  | asked parameters isProbe readBy =>
      exact .asking parameters (about _ isProbe) readBy

theorem Probes.listOf {kind : Probe} {read : Row → Except DriverError String}
    {query : CatalogQuery} (isProbe : query.topic.probe? = some kind)
    (isList : query.topic.isSingle engine = false)
    (readsRow : ∀ row,
      DriverError.of? (read row) = query.topic.rowFault? engine row)
    (parameters : List String) :
    Probes engine kind (listOf read query parameters) :=
  listOf_eq_asking read query parameters ▸
    .asked parameters isProbe (Topic.readBy_mapM isList readsRow)

end Inquiry

end SchemaAtlas
