import SchemaAtlas.Inflection.Rules
import SchemaAtlas.Text.CaseMap
import SchemaAtlas.Text.Search

/-!
# Plural and singular

The plural and the singular of an English word.  Irregular and uncountable words
come first; any other word is changed by the last rule of the table whose
pattern occurs in it.  The case of the word carries over to what is put in.
-/

namespace SchemaAtlas.Inflection

open Text

/-- The two numbers of a noun. -/
inductive Number where
  | one
  | other
  deriving DecidableEq, Repr

def startsUppercase (text : List Char) : Bool :=
  match text with
  | [] => false
  | c :: _ => isUppercase c

/-- Give a text the case of a word: all lowercase, all uppercase, or as it is
where the word begins with a capital. -/
def restoreCase (word text : List Char) : List Char :=
  if word = text then text
  else if word = lower word then lower text
  else if word = upper word then upper text
  else if startsUppercase word then text
  else lower text

/-- The text with every dollar sign removed together with the character after
it. -/
def withoutReferences : List Char → List Char
  | [] => []
  | ['$'] => []
  | '$' :: _ :: rest => withoutReferences rest
  | c :: rest => c :: withoutReferences rest

/-- The reference to the group of the given number. -/
def reference (number : Nat) : List Char :=
  '$' :: Nat.toDigits 10 number

/-- Replace the reference to each group by the group's text, beginning with the
given number. -/
def fillReferences (word : List Char) :
    Nat → List (List Char) → List Char → List Char
  | _, [], text => text
  | number, group :: groups, text =>
    fillReferences word (number + 1) groups
      (replaceAll (reference number) (restoreCase word group) text)

/-- Apply a rule at a place where its pattern occurs in the word. -/
def Rule.replace (rule : Rule) (word : List Char) (found : Pattern.Found) :
    List Char :=
  withoutReferences
    (found.before ++
      fillReferences word 0 (found.matched :: found.groups)
        (restoreCase word rule.placement.toList) ++
      found.after)

/-- Apply the last rule of a list whose pattern occurs in the word. -/
def replaceByLast (rules : List Rule) (word : List Char) : List Char :=
  match rules.reverse.findSome? fun rule =>
      (rule.pattern.find? word).map (rule.replace word) with
  | some changed => changed
  | none => word

/-- The rules that keep the words of an uncountable pattern as they are. -/
def uncountableRules : List Rule :=
  uncountablePatterns.map fun pattern => ⟨pattern, "$0"⟩

/-- The irregular pairs, from the other number to the given one. -/
def irregularsInto : Number → List (String × String)
  | .other => irregularPairs
  | .one => irregularPairs.reverse.map Prod.swap

/-- The rules for a number. -/
def rulesInto : Number → List Rule
  | .one => singularRules ++ uncountableRules
  | .other => pluralRules ++ uncountableRules

/-- The form of a word in the given number. -/
def inflect (number : Number) (word : String) : String :=
  let token := lowercase word
  let irregulars := irregularsInto number
  if irregulars.any fun (_, form) => form == token then
    String.ofList (restoreCase word.toList token.toList)
  else
    match irregulars.lookup token with
    | some form => String.ofList (restoreCase word.toList form.toList)
    | none =>
      if token.isEmpty || uncountableWords.contains token then word
      else String.ofList (replaceByLast (rulesInto number) word.toList)

def plural (word : String) : String :=
  inflect .other word

def singular (word : String) : String :=
  inflect .one word

end SchemaAtlas.Inflection
