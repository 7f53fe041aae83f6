import SchemaAtlas.Text.Search

/-!
# Presentation and accessor naming

Two settings choose among ways to write the result: the family of target types
that a column is presented in, and the rule that names the accessor of a foreign
key.  Both are read from words in any ASCII case.
-/

namespace SchemaAtlas

/-- A setting that is chosen by a word. -/
inductive Setting where
  | presentation
  | accessorNaming
  deriving DecidableEq, Repr

/-- How messages call a setting. -/
def Setting.description : Setting → String
  | .presentation => "type mode"
  | .accessorNaming => "foreign key mode"

/-- A word that is no value of its setting. -/
structure UnknownWord where
  setting : Setting
  word : String
  deriving DecidableEq, Repr

def UnknownWord.message (unknown : UnknownWord) : String :=
  "invalid " ++ unknown.setting.description ++ " '" ++ unknown.word ++ "'"

/-- The first entry of a table that lists the given word, in any ASCII case. -/
def wordValue? (table : List (List String × α)) (word : String) : Option α :=
  (table.find? fun (words, _) =>
    words.any fun known =>
      Text.equalIgnoringAsciiCase known.toList word.toList).map Prod.snd

/-- The family of target types.  The standard family uses plain types, the full
family the wrappers of a driver; the pointer and hybrid families use what the
driver decodes into, and differ in the way they write a value that may be
missing. -/
inductive Presentation where
  | standard
  | full
  | pointer
  | hybrid
  deriving DecidableEq, Repr, Inhabited

namespace Presentation

/-- The words for each family. -/
def words : List (List String × Presentation) :=
  [ (["std", "default", "standard"], .standard),
    (["full", "pgtype-full"], .full),
    (["pointer"], .pointer),
    (["hybrid", "pgtype"], .hybrid) ]

def ofWord? (word : String) : Option Presentation :=
  wordValue? words word

/-- Read a word for a family. -/
def read (word : String) : Except UnknownWord Presentation :=
  match ofWord? word with
  | some presentation => .ok presentation
  | none => .error ⟨.presentation, word⟩

def shortName : Presentation → String
  | .standard => "std"
  | .full => "full"
  | .pointer => "pointer"
  | .hybrid => "hybrid"

def name : Presentation → String
  | .standard => "standard"
  | .full => "full"
  | .pointer => "pointer"
  | .hybrid => "hybrid"

end Presentation

/-- How the accessor of a foreign key is named: after the type that it leads to,
after that type and the owning field, or after that type and the constraint.
The smart rule names it after the type alone unless that would be ambiguous. -/
inductive AccessorNaming where
  | smart
  | parent
  | field
  | key
  deriving DecidableEq, Repr, Inhabited

namespace AccessorNaming

/-- The words for each rule. -/
def words : List (List String × AccessorNaming) :=
  [ (["smart", "default"], .smart),
    (["parent"], .parent),
    (["field"], .field),
    (["key"], .key) ]

def ofWord? (word : String) : Option AccessorNaming :=
  wordValue? words word

/-- Read a word for a rule. -/
def read (word : String) : Except UnknownWord AccessorNaming :=
  match ofWord? word with
  | some naming => .ok naming
  | none => .error ⟨.accessorNaming, word⟩

def name : AccessorNaming → String
  | .smart => "smart"
  | .parent => "parent"
  | .field => "field"
  | .key => "key"

end AccessorNaming

end SchemaAtlas
