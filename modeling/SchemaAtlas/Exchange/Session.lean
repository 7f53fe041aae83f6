import SchemaAtlas.Build.Phase
import SchemaAtlas.Exchange.Connection

/-!
# Sessions

A session is what the library itself does with a connection: it asks inquiries,
carries out statements, tells what happens in events, and draws random numbers.
An inquiry inside a session can do none of the last three.
-/

namespace SchemaAtlas

/-- The two optional queries for tables whose key the engine fills in. -/
inductive Probe where
  | sequence
  | autoIncrement
  deriving DecidableEq, Repr

/-- Something that a session tells. -/
inductive Event where
  | phaseReached (phase : Phase) (schema : String)
  | viewReplacesTable (relation : String)
  | probeFailed (probe : Probe) (cause : Error) (schema : String)
  | viewNotDropped (view : String) (cause : DriverError)
  deriving DecidableEq, Repr

namespace Event

def isInformation : Event → Bool
  | .phaseReached .. => true
  | _ => false

def level (event : Event) : String :=
  if event.isInformation then "info" else "warn"

def message : Event → String
  | .phaseReached .. => "schemagraph.phase"
  | .viewReplacesTable _ => "view replaces table of the same name"
  | .probeFailed .sequence .. => "sequence probe failed"
  | .probeFailed .autoIncrement .. => "auto-increment probe failed"
  | .viewNotDropped .. => "failed to drop introspection view"

def details : Event → List (String × String)
  | .phaseReached phase schema => [("phase", phase.name), ("schema", schema)]
  | .viewReplacesTable relation => [("relation", relation)]
  | .probeFailed _ cause schema =>
    [("error", cause.message), ("schema", schema)]
  | .viewNotDropped view cause => [("view", view), ("error", cause.message)]

end Event

/-- A source of random numbers, with the number of draws that the search for an
unused key may take. -/
structure RandomSource where
  draw : Nat → UInt32
  patience : Nat

/-- What a session works with. -/
structure Surroundings where
  connection : Connection
  random : RandomSource

/-- The record of a session: the requests that were made, the events that were
told, the number of draws, and the last phase that was reached. -/
structure Journal where
  requests : List Request
  events : List Event
  draws : Nat
  reached : Option Phase
  deriving DecidableEq, Repr

namespace Journal

/-- The journal of a session that does nothing. -/
def none : Journal := ⟨[], [], 0, .none⟩

def append (first second : Journal) : Journal where
  requests := first.requests ++ second.requests
  events := first.events ++ second.events
  draws := first.draws + second.draws
  reached := second.reached.or first.reached

instance : Record Journal where
  none := none
  append := append
  none_append := by
    intro journal
    simp [append, none]
  append_none := by
    intro journal
    simp [append, none]
  append_assoc := by
    intro first second third
    simp [append, List.append_assoc, Nat.add_assoc, Option.or_assoc]

end Journal

/-- A computation of the library itself. -/
abbrev Session := Recorded Surroundings Journal

namespace Session

def ask (inquiry : Inquiry α) : Session α :=
  fun surroundings before =>
    let (outcome, requests) := inquiry surroundings.connection before.requests
    (outcome, { Journal.none with requests })

/-- Carry out a statement.  Whether it failed is the value. -/
def execute (sql : String) : Session (Except DriverError Unit) :=
  fun surroundings before =>
    (.ok (surroundings.connection.execute before.requests sql),
      { Journal.none with requests := [.execute sql] })

/-- Tell an event. -/
def tell (event : Event) : Session Unit :=
  fun _ _ => (.ok (), { Journal.none with events := [event] })

/-- Reach a phase, and tell so. -/
def reach (phase : Phase) (schema : String) : Session Unit :=
  fun _ _ =>
    (.ok (),
      { Journal.none with
        events := [.phaseReached phase schema]
        reached := some phase })

def draw : Session UInt32 :=
  fun surroundings before =>
    (.ok (surroundings.random.draw before.draws),
      { Journal.none with draws := 1 })

/-- The number of draws that a search may take. -/
def patience : Session Nat :=
  fun surroundings _ => (.ok surroundings.random.patience, Journal.none)

end Session

end SchemaAtlas
