import SchemaAtlas.Text.Search

/-!
# Database engines

The engines whose catalogs can be read, their names and aliases, and the order
in which they are listed.
-/

namespace SchemaAtlas

inductive Engine where
  | sqlite
  | postgresql
  | cockroachdb
  | mysql
  | oracle
  deriving DecidableEq, Repr, Inhabited

namespace Engine

/-- Every engine, in listing order. -/
def all : List Engine :=
  [.sqlite, .postgresql, .cockroachdb, .mysql, .oracle]

/-- The position of an engine in listing order. -/
def rank : Engine → Nat
  | .sqlite => 0
  | .postgresql => 1
  | .cockroachdb => 2
  | .mysql => 3
  | .oracle => 4

def name : Engine → String
  | .sqlite => "sqlite"
  | .postgresql => "postgresql"
  | .cockroachdb => "cockroachdb"
  | .mysql => "mysql"
  | .oracle => "oracle"

/-- The name of an engine in the spelling of its makers. -/
def productName : Engine → String
  | .sqlite => "SQLite"
  | .postgresql => "PostgreSQL"
  | .cockroachdb => "CockroachDB"
  | .mysql => "MySQL"
  | .oracle => "Oracle"

/-- The names under which an engine may be asked for. -/
def aliases : Engine → List String
  | .sqlite => ["sqlite", "sqlite3", "file"]
  | .postgresql => ["postgresql", "postgres", "pg", "pgsql"]
  | .cockroachdb => ["cockroachdb", "cockroach", "crdb"]
  | .mysql => ["mysql", "mariadb", "maria"]
  | .oracle => ["oracle", "ora", "oci8"]

/-- Whether the placeholders of an engine carry the number of the parameter. -/
def usesNumberedPlaceholders : Engine → Bool
  | .postgresql | .cockroachdb | .oracle => true
  | .sqlite | .mysql => false

/-- The engine with a given alias, in any ASCII case. -/
def ofAlias? (text : String) : Option Engine :=
  all.find? fun engine =>
    engine.aliases.any fun word =>
      Text.equalIgnoringAsciiCase word.toList text.toList

/-- The engine with exactly the given name. -/
def ofName? (text : String) : Option Engine :=
  all.find? fun engine => engine.name == text

/-- The message about a text that names no engine. -/
def unknownMessage : String :=
  "unknown dialect"

theorem mem_all (engine : Engine) : engine ∈ all := by
  cases engine <;> decide

end Engine

end SchemaAtlas
