import SchemaAtlas.Error
import SchemaAtlas.Text.Blank

/-!
# Statements with inline parameters

A statement may hold parameters, written `%%name type%%`, or
`%%name type,interpolate%%` for a value that is put into the text of the
statement.  A template is such a statement read into literal texts and
parameters; it is rendered with a placeholder for every parameter that is bound.
-/

namespace SchemaAtlas

open Text

/-- A parameter of a statement. -/
structure QueryParameter where
  name : String
  type : String
  /-- Whether the value becomes part of the statement instead of being bound. -/
  interpolate : Bool
  deriving DecidableEq, Repr

namespace QueryParameter

/-- Whether every option of a parameter is known and allowed; the one option
there is asks for interpolation. -/
def optionsAllowed (allowInterpolate : Bool) (options : List (List Char)) :
    Bool :=
  options.all fun option =>
    allowInterpolate && option == "interpolate".toList

/-- Read the text between the marks of a parameter: its name, a blank, its type,
and options behind commas. -/
def read? (allowInterpolate : Bool) (body : List Char) :
    Option QueryParameter := do
  let (name, rest) ← splitOnce? ' ' (trim body)
  match (splitOn ',' rest).map trim with
  | [] => none
  | type :: options =>
    if name.isEmpty || type.isEmpty ||
        !optionsAllowed allowInterpolate options then none
    else
      return ⟨String.ofList name, String.ofList type, !options.isEmpty⟩

/-- Read the text between the marks of a parameter; a text of another form is an
error that shows it. -/
def read (allowInterpolate : Bool) (body : List Char) :
    Except Error QueryParameter :=
  match read? allowInterpolate body with
  | some parameter => .ok parameter
  | none => .error (.queryParameter (String.ofList body))

end QueryParameter

/-- A part of a statement: a literal text, or the text between the marks of a
parameter. -/
inductive Segment where
  | literal (text : List Char)
  | parameter (body : List Char)
  deriving DecidableEq, Repr

namespace Segment

/-- The text of a parameter at the beginning of a text and what stands behind
it.  The text between the marks holds no percent sign and is not empty. -/
def parameterAt? : List Char → Option (List Char × List Char)
  | '%' :: '%' :: rest =>
    let body := rest.takeWhile (· != '%')
    match rest.dropWhile (· != '%') with
    | '%' :: '%' :: after => if body.isEmpty then none else some (body, after)
    | _ => none
  | _ => none

theorem length_after_lt {text body after : List Char}
    (found : parameterAt? text = some (body, after)) :
    after.length < text.length := by
  unfold parameterAt? at found
  split at found
  next rest =>
    dsimp only at found
    split at found
    next behind shape =>
      split at found
      · simp at found
      · simp only [Option.some.injEq, Prod.mk.injEq] at found
        obtain ⟨-, rfl⟩ := found
        have shorter : (rest.dropWhile (· != '%')).length ≤ rest.length :=
          (List.dropWhile_sublist _).length_le
        rw [shape] at shorter
        simp only [List.length_cons] at shorter ⊢
        omega
    next => simp at found
  next => simp at found

/-- Split a text behind the reversed literal text that comes before it. -/
def splitFrom (literal text : List Char) : List Segment :=
  match text with
  | [] => [.literal literal.reverse]
  | c :: rest =>
    match _found : parameterAt? (c :: rest) with
    | some (body, after) =>
      .literal literal.reverse :: .parameter body :: splitFrom [] after
    | none => splitFrom (c :: literal) rest
termination_by text.length
decreasing_by
  · exact length_after_lt _found
  · simp

/-- The segments of a statement: literal texts with a parameter between any two
of them. -/
def ofStatement (statement : String) : List Segment :=
  splitFrom [] statement.toList

end Segment

inductive Piece where
  | literal (text : String)
  | parameter (parameter : QueryParameter)
  deriving DecidableEq, Repr

/-- A statement whose parameters have been read. -/
abbrev Template := List Piece

namespace Template

def readSegment (allowInterpolate : Bool) : Segment → Except Error Piece
  | .literal text => .ok (.literal (String.ofList text))
  | .parameter body =>
    (QueryParameter.read allowInterpolate body).map .parameter

/-- Read a statement.  The first parameter of a wrong form is the error. -/
def read (allowInterpolate : Bool) (statement : String) :
    Except Error Template :=
  (Segment.ofStatement statement).mapM (readSegment allowInterpolate)

def parameters (template : Template) : List QueryParameter :=
  template.filterMap fun
    | .literal _ => none
    | .parameter parameter => some parameter

/-- The text of a template, the bound parameters counted from `bound`.  With
`splice` an interpolated parameter becomes its name in braces; without it every
parameter is bound. -/
def renderFrom (splice : Bool) (placeholder : Nat → String) :
    Nat → Template → List String
  | _, [] => []
  | bound, .literal text :: rest =>
    text :: renderFrom splice placeholder bound rest
  | bound, .parameter parameter :: rest =>
    if splice && parameter.interpolate then
      ("\x7b" ++ parameter.name ++ "\x7d") ::
        renderFrom splice placeholder bound rest
    else placeholder bound :: renderFrom splice placeholder (bound + 1) rest

def render (splice : Bool) (placeholder : Nat → String)
    (template : Template) : String :=
  "".intercalate (renderFrom splice placeholder 0 template)

end Template

end SchemaAtlas
