import SchemaAtlas.Adapter.CockroachDb
import SchemaAtlas.Adapter.MySql
import SchemaAtlas.Adapter.Oracle
import SchemaAtlas.Adapter.PostgreSql
import SchemaAtlas.Adapter.Sqlite
import SchemaAtlas.Build.Builder

/-!
# Registries of adapters

A registry holds at most one adapter for every engine.  It is asked by engine or
by any name that an engine goes by.
-/

namespace SchemaAtlas

structure Registry where
  adapter? : Engine → Option Adapter

/-- The adapter that the library itself has for an engine. -/
def Adapter.builtin : Engine → Adapter
  | .sqlite => .sqlite
  | .postgresql => .postgresql
  | .cockroachdb => .cockroachdb
  | .mysql => .mysql
  | .oracle => .oracle

namespace Registry

def empty : Registry := ⟨fun _ => none⟩

/-- The registry with an adapter for its engine, in the place of another. -/
def register (registry : Registry) (adapter : Adapter) : Registry :=
  ⟨fun engine =>
    if engine = adapter.engine then some adapter
    else registry.adapter? engine⟩

/-- The registry with the library's own adapter for every engine. -/
def builtin : Registry :=
  Engine.all.foldl (fun registry engine =>
    registry.register (Adapter.builtin engine)) empty

def get (registry : Registry) (engine : Engine) : Except Error Adapter :=
  match registry.adapter? engine with
  | some adapter => .ok adapter
  | none => .error (.noAdapter engine)

/-- The adapter for the engine of a name. -/
def getByName (registry : Registry) (name : String) :
    Except Error Adapter :=
  match Engine.ofAlias? name with
  | some engine => registry.get engine
  | none => .error (.unknownEngine name)

def engines (registry : Registry) : List Engine :=
  Engine.all.filter fun engine => (registry.adapter? engine).isSome

/-- The engines with an adapter, listed in braces. -/
def describe (registry : Registry) : String :=
  "\x7b" ++ ", ".intercalate (registry.engines.map Engine.productName) ++
    "\x7d"

/-- Build the graph of a schema with the adapter for an engine. -/
def load (registry : Registry) (engine : Engine) (options : Options)
    (surroundings : Surroundings) : Except Error Graph := do
  let adapter ← registry.get engine
  ((GraphBuilder.new adapter options).build surroundings).1.outcome

end Registry

end SchemaAtlas
