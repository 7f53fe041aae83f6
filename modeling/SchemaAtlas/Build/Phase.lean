/-!
# Phases of a build

A build of a graph passes through its phases in one order and never goes back.
-/

namespace SchemaAtlas

/-- A phase of a build, named for what it has achieved. -/
inductive Phase where
  | init
  | enumsLoaded
  | routinesLoaded
  | tablesLoaded
  | viewsLoaded
  | merged
  | foreignKeysResolved
  | indexesResolved
  | done
  deriving DecidableEq, Repr, Inhabited

namespace Phase

def name : Phase → String
  | .init => "init"
  | .enumsLoaded => "enums_loaded"
  | .routinesLoaded => "procs_loaded"
  | .tablesLoaded => "tables_loaded"
  | .viewsLoaded => "views_loaded"
  | .merged => "merged"
  | .foreignKeysResolved => "foreign_keys_resolved"
  | .indexesResolved => "indexes_resolved"
  | .done => "done"

/-- The phases that a build passes through, in order. -/
def course : List Phase :=
  [ .enumsLoaded, .routinesLoaded, .tablesLoaded, .viewsLoaded, .merged,
    .foreignKeysResolved, .indexesResolved, .done ]

end Phase

end SchemaAtlas
