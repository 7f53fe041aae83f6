import SchemaAtlas.Error
import SchemaAtlas.Identifier
import SchemaAtlas.Inflection.Number
import SchemaAtlas.Text.CaseMap

/-!
# Initialisms and the two spellings of names

Names are written in snake case (`user_id`) or in camel case (`UserID`).  A set
of initialisms says which words stay together as one uppercase unit in both
directions.  The set knows the length of its longest entry, so that a search at
the beginning of a text need not look further.
-/

namespace SchemaAtlas

open Text

/-- A set of initialisms, uppercased, with a bound on their length. -/
structure Initialisms where
  entries : List (List Char)
  longest : Nat
  length_le_longest : ∀ entry ∈ entries, entry.length ≤ longest

namespace Initialisms

def empty : Initialisms where
  entries := []
  longest := 0
  length_le_longest := by simp

/-- The set with one more initialism, whatever its length. -/
def insert (set : Initialisms) (initialism : List Char) : Initialisms where
  entries := upper initialism :: set.entries
  longest := max set.longest (upper initialism).length
  length_le_longest := by
    intro entry membership
    rcases List.mem_cons.mp membership with rfl | earlier
    · exact Nat.le_max_right ..
    · exact Nat.le_trans (set.length_le_longest entry earlier)
        (Nat.le_max_left ..)

/-- The initialisms that are known unless a set starts from nothing. -/
def commonWords : List String :=
  [ "ACL", "API", "ASCII", "CPU", "CSS", "DNS", "EOF", "GUID", "HTML", "HTTPS",
    "HTTP", "ID", "IP", "JSON", "LHS", "QPS", "RAM", "RHS", "RPC", "SLA",
    "SMTP", "SQL", "SSH", "TCP", "TLS", "TTL", "UDP", "UID", "UI", "URI", "URL",
    "UTC", "UTF8", "UUID", "VM", "XML", "XMPP", "XSRF", "XSS", "YAML" ]

/-- The set of the common initialisms. -/
def common : Initialisms :=
  commonWords.foldl (fun set word => set.insert word.toList) empty

instance : Inhabited Initialisms := ⟨common⟩

/-- The set with one more initialism, which needs at least two characters. -/
def add (set : Initialisms) (initialism : String) :
    Except Error Initialisms :=
  if initialism.length < 2 then .error (.invalidInitialism initialism)
  else .ok (set.insert initialism.toList)

/-- Add initialisms one after the other.  The first bad one ends this; the set
then holds those before it. -/
def addEach (set : Initialisms) : List String → Initialisms × Except Error Unit
  | [] => (set, .ok ())
  | initialism :: rest =>
    match set.add initialism with
    | .ok larger => larger.addEach rest
    | .error cause => (set, .error cause)

/-- The set with several more initialisms, if all are good. -/
def addAll (set : Initialisms) (initialisms : List String) :
    Except Error Initialisms :=
  match set.addEach initialisms with
  | (larger, .ok ()) => .ok larger
  | (_, .error cause) => .error cause

def ofList (initialisms : List String) : Except Error Initialisms :=
  empty.addAll initialisms

/-- Whether a text, in any case, is an initialism of the set. -/
def holds (set : Initialisms) (text : List Char) : Bool :=
  set.entries.contains (upper text)

/-- The longest entry among the first `size` beginnings of a run of letters; an
entry of fewer than two letters does not count. -/
def longestEntry? (set : Initialisms) (run : List Char) :
    Nat → Option (List Char)
  | 0 => none
  | size + 1 =>
    if 1 ≤ size ∧ set.entries.contains (run.take (size + 1)) then
      some (run.take (size + 1))
    else set.longestEntry? run size

/-- The longest initialism at the beginning of a text, which has to stand there
in uppercase. -/
def peek? (set : Initialisms) (text : List Char) : Option (List Char) :=
  let run := (text.take set.longest).takeWhile isUppercase
  set.longestEntry? run run.length

/-- The unit that was read last in the scan of a name. -/
inductive Preceding where
  | nothing
  | initialism
  | letter (c : Char)

/-- Whether the unit is a lowercase letter or a number. -/
def Preceding.isLowerOrNumber : Preceding → Bool
  | .letter c => isLowercase c || isNumeric c
  | _ => false

/-- Whether an initialism may begin behind the unit: not inside a run of
uppercase letters, unless the run is an initialism itself. -/
def Preceding.allowsInitialism : Preceding → Bool
  | .letter c => !isUppercase c
  | _ => true

/-- Whether a word ends between the unit and the next character. -/
def Preceding.separates (preceding : Preceding) (c : Char) : Bool :=
  match preceding with
  | .initialism => isAlphabetic c
  | _ => preceding.isLowerOrNumber && isUppercase c

/-- The initialism that is the next unit of a text behind the given unit. -/
def unitAfter? (set : Initialisms) (preceding : Preceding)
    (text : List Char) : Option (List Char) :=
  if preceding.allowsInitialism then set.peek? text else none

/-- Separate the words of a name behind the given unit. -/
def separateFrom (set : Initialisms) (preceding : Preceding) :
    List Char → List Char
  | [] => []
  | c :: rest =>
    (if preceding.separates c then [Identifier.separator] else []) ++
      match set.unitAfter? preceding (c :: rest) with
      | some run =>
        run ++ set.separateFrom .initialism (rest.drop (run.length - 1))
      | none => c :: set.separateFrom (.letter c) rest
termination_by text => text.length
decreasing_by
  · simp only [List.length_drop, List.length_cons]
    omega
  · simp

def snakeChars (set : Initialisms) (name : List Char) : List Char :=
  Identifier.collapse (lower (set.separateFrom .nothing name))

/-- A word with a capital at its beginning and small letters behind it. -/
def titleCase : List Char → List Char
  | [] => []
  | c :: rest => upperChar c ++ rest.flatMap lowerChar

/-- The camel case form of one word. -/
def camelWord (set : Initialisms) (word : List Char) : List Char :=
  if set.entries.contains (upper word) then upper word else titleCase word

def camelChars (set : Initialisms) (name : List Char) : List Char :=
  (Identifier.parts (Identifier.cleanChars name)).flatMap set.camelWord

/-- The snake case form of a name: `UserID` becomes `user_id`. -/
def snake (set : Initialisms) (name : String) : String :=
  String.ofList (set.snakeChars name.toList)

/-- The camel case form of a name: `user_id` becomes `UserID`. -/
def camel (set : Initialisms) (name : String) : String :=
  String.ofList (set.camelChars name.toList)

/-- The camel case form of a name that may be in camel case already. -/
def recamel (set : Initialisms) (name : String) : String :=
  set.camel (set.snake name)

/-- Lowercase the first bytes of a camel case name, as many as the first word of
its snake case form has.  A cut inside a character leaves the name as it is. -/
def lowerFirst (width : Nat) (camel : List Char) : List Char :=
  match splitAtByte? width camel with
  | some (head, tail) => lower head ++ tail
  | none => camel

/-- The camel case form of a name with a lowercase first word: `UserAccount`
becomes `userAccount`. -/
def lowerCamel (set : Initialisms) (name : String) : String :=
  let snake := set.snakeChars name.toList
  let words := splitOn Identifier.separator (Identifier.cleanChars snake)
  String.ofList
    (lowerFirst (byteLength (words.headD [])) (set.camelChars snake))

/-- The camel case form of a name whose last word is put into the singular. -/
def singularCamel (set : Initialisms) (name : String) : String :=
  match splitLast? Identifier.separator name.toList with
  | some (head, last) =>
    set.camel (String.ofList head ++ "_" ++
      Inflection.singular (String.ofList last))
  | none => set.camel (Inflection.singular name)

/-- The name of an enumeration constant: the label in camel case, without the
name of the enumeration at its end where something is left in front of it. -/
def constantName (set : Initialisms) (enumeration label : String) : String :=
  let name := set.camelChars label.toList
  let width := byteLength enumeration.toList
  if width < byteLength name ∧
      (lower enumeration.toList).isSuffixOf (lower name) then
    match splitAtByte? (byteLength name - width) name with
    | some (head, _) => String.ofList head
    | none => String.ofList name
  else String.ofList name

end Initialisms

end SchemaAtlas
