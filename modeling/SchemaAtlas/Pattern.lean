import SchemaAtlas.Text.Blank
import SchemaAtlas.Text.WordCharacter

/-!
# Patterns in texts

Patterns describe pieces of text without regard to letter case.  A pattern may
match in several ways; `runs` lists them in order of preference (an earlier
alternative before a later one, a longer repetition before a shorter one), and
`find?` gives the preferred way at the first position where there is one.
-/

namespace SchemaAtlas

open Text

/-- A pattern.  Two patterns in a row have to match one after the other; the
alternatives of a choice are tried in order; a group remembers what it
matched. -/
inductive Pattern where
  | empty
  | never
  | one (accepts : Char → Bool)
  | many (accepts : Char → Bool)
  | start
  | finish
  | wordEdge
  | inRow (first second : Pattern)
  | either (first second : Pattern)
  | group (inner : Pattern)

namespace Pattern

/-- The representative of a character among those that differ from it in case
only.  The long s counts as an s, and the kelvin sign as a k. -/
def fold (c : Char) : Char :=
  if c = 'ſ' then 's'
  else if c = '\u212A' then 'k'
  else if c = 'É' then 'é'
  else c.toLower

/-- A literal text, in any case. -/
def ofString (text : String) : Pattern :=
  text.toList.foldr (fun c rest => .inRow (.one fun d => fold d == c) rest)
    .empty

instance : Coe String Pattern := ⟨ofString⟩

instance : Append Pattern := ⟨.inRow⟩

/-- One character of a set. -/
def among (members : String) : Pattern :=
  .one fun c => members.toList.contains (fold c)

/-- One character outside a set. -/
def except (members : String) : Pattern :=
  .one fun c => !members.toList.contains (fold c)

/-- The first of several patterns that matches. -/
def choice (alternatives : List Pattern) : Pattern :=
  alternatives.foldr .either .never

/-- One of several literal texts. -/
def anyOf (texts : List String) : Pattern :=
  choice (texts.map ofString)

/-- A pattern that may be missing. -/
def maybe (inner : Pattern) : Pattern :=
  .either inner .empty

/-- One way to match: the reversed text up to the end of the match, the text
behind it, and the texts of the groups that took part, in order. -/
structure Run where
  before : List Char
  rest : List Char
  groups : List (List Char)

/-- Whether a text begins with a word character. -/
def startsInWord (text : List Char) : Bool :=
  match text with
  | [] => false
  | c :: _ => isWordCharacter c

/-- The ways to match one or more characters of a set, the longest first. -/
def manyRuns (accepts : Char → Bool) (before : List Char) :
    List Char → List Run
  | [] => []
  | c :: rest =>
    if accepts c then
      manyRuns accepts (c :: before) rest ++ [⟨c :: before, rest, []⟩]
    else []

/-- The ways to match a pattern at the beginning of `rest`, behind the reversed
text `before`, in order of preference. -/
def runs : Pattern → (before rest : List Char) → List Run
  | .empty, before, rest => [⟨before, rest, []⟩]
  | .never, _, _ => []
  | .one accepts, before, rest =>
    match rest with
    | [] => []
    | c :: rest => if accepts c then [⟨c :: before, rest, []⟩] else []
  | .many accepts, before, rest => manyRuns accepts before rest
  | .start, before, rest => if before.isEmpty then [⟨before, rest, []⟩] else []
  | .finish, before, rest => if rest.isEmpty then [⟨before, rest, []⟩] else []
  | .wordEdge, before, rest =>
    if startsInWord before == startsInWord rest then []
    else [⟨before, rest, []⟩]
  | .inRow first second, before, rest =>
    (first.runs before rest).flatMap fun opening =>
      (second.runs opening.before opening.rest).map fun closing =>
        { closing with groups := opening.groups ++ closing.groups }
  | .either first second, before, rest =>
    first.runs before rest ++ second.runs before rest
  | .group inner, before, rest =>
    (inner.runs before rest).map fun run =>
      { run with
        groups := rest.take (rest.length - run.rest.length) :: run.groups }

/-- A match inside a text: what stands before it, the matched text, what stands
behind it, and the texts of the groups that took part. -/
structure Found where
  before : List Char
  matched : List Char
  after : List Char
  groups : List (List Char)

/-- The preferred match at the first position of `rest` that has one. -/
def findFrom? (pattern : Pattern) (before rest : List Char) : Option Found :=
  match pattern.runs before rest with
  | run :: _ =>
    some
      { before := before.reverse
        matched := rest.take (rest.length - run.rest.length)
        after := run.rest
        groups := run.groups }
  | [] =>
    match rest with
    | [] => none
    | c :: rest => findFrom? pattern (c :: before) rest
termination_by structural rest

/-- The leftmost match in a text. -/
def find? (pattern : Pattern) (text : List Char) : Option Found :=
  pattern.findFrom? [] text

end Pattern

end SchemaAtlas
