import SchemaAtlas.AdHoc.Template
import SchemaAtlas.Proofs.Text.Cutting

/-!
# Statements put together from parameters

A statement can be put together from literal texts with a parameter between any
two of them.  Reading it finds these parameters again, unless one of them is
marked and no marks are allowed; rendering it fills them in and leaves the
literal texts alone.
-/

namespace SchemaAtlas

open Text

namespace QueryParameter

/-- A parameter that can stand between its marks. -/
structure Writable (parameter : QueryParameter) : Prop where
  named : parameter.name ≠ ""
  solidName : ∀ c ∈ parameter.name.toList, isBlank c = false ∧ c ≠ '%'
  typed : parameter.type ≠ ""
  trimmedType : trimmed parameter.type = parameter.type
  plainType : ∀ c ∈ parameter.type.toList, c ≠ ',' ∧ c ≠ '%'

-- The characters are checked as a list, not one of all characters after the
-- other.
instance (parameter : QueryParameter) : Decidable parameter.Writable :=
  decidable_of_iff
    (parameter.name ≠ "" ∧
      parameter.name.toList.all (fun c => !isBlank c && c != '%') ∧
      parameter.type ≠ "" ∧ trimmed parameter.type = parameter.type ∧
      parameter.type.toList.all (fun c => c != ',' && c != '%')) <| by
    simp only [List.all_eq_true, Bool.and_eq_true, Bool.not_eq_true',
      bne_iff_ne]
    exact ⟨fun ⟨named, solid, typed, isTrimmed, plain⟩ =>
        ⟨named, solid, typed, isTrimmed, plain⟩,
      fun ⟨named, solid, typed, isTrimmed, plain⟩ =>
        ⟨named, solid, typed, isTrimmed, plain⟩⟩

def body (parameter : QueryParameter) : String :=
  parameter.name ++ " " ++ parameter.type ++
    if parameter.interpolate then ",interpolate" else ""

def written (parameter : QueryParameter) : String :=
  "%%" ++ parameter.body ++ "%%"

/-- Whether a parameter is rendered as one that is bound. -/
def isBound (splice : Bool) (parameter : QueryParameter) : Bool :=
  !(splice && parameter.interpolate)

/-- What a parameter becomes behind `bound` parameters that are bound. -/
def filling (splice : Bool) (placeholder : Nat → String) (bound : Nat)
    (parameter : QueryParameter) : String :=
  if parameter.isBound splice then placeholder bound
  else "\x7b" ++ parameter.name ++ "\x7d"

namespace Writable

variable {parameter : QueryParameter} (writable : parameter.Writable)

include writable

private theorem exists_first :
    ∃ first rest, parameter.name.toList = first :: rest ∧
    isBlank first = false := by
  cases letters : parameter.name.toList with
  | nil =>
      exact (writable.named (String.toList_inj.mp letters)).elim
  | cons first rest =>
      have inName : first ∈ parameter.name.toList := by simp [letters]
      exact ⟨first, rest, rfl, (writable.solidName first inName).1⟩

theorem type_ne_nil : parameter.type.toList ≠ [] :=
  fun isEmpty => writable.typed (String.toList_inj.mp isEmpty)

theorem trim_type : trim parameter.type.toList = parameter.type.toList := by
  have kept := congrArg String.toList writable.trimmedType
  rwa [trimmed, String.toList_ofList] at kept

private theorem blank_not_mem : ' ' ∉ parameter.name.toList := by
  intro inName
  have solid := (writable.solidName ' ' inName).1
  revert solid
  decide

theorem comma_not_mem : ',' ∉ parameter.type.toList :=
  fun inType => (writable.plainType ',' inType).1 rfl

private theorem plain_body : '%' ∉ parameter.body.toList := by
  have name : '%' ∉ parameter.name.toList :=
    fun inName => (writable.solidName '%' inName).2 rfl
  have type : '%' ∉ parameter.type.toList :=
    fun inType => (writable.plainType '%' inType).2 rfl
  unfold body
  cases parameter.interpolate <;> simp [name, type]

private theorem body_ne_nil : parameter.body.toList ≠ [] := by
  simp [body, writable.named]

private theorem trim_name_append {rest : List Char} (nonempty : rest ≠ [])
    (ended : trimEnd rest = rest) :
    trim (parameter.name.toList ++ ' ' :: rest) =
      parameter.name.toList ++ ' ' :: rest := by
  obtain ⟨first, letters, isName, solid⟩ := writable.exists_first
  have kept : trimEnd (first :: letters ++ [' '] ++ rest) =
      first :: letters ++ [' '] ++ rest :=
    trimEnd_append nonempty ended
  rw [List.append_assoc] at kept
  rw [isName]
  exact trim_cons solid kept

theorem read?_name_append (allowInterpolate : Bool)
    {rest : List Char} {options : List (List Char)} (nonempty : rest ≠ [])
    (ended : trimEnd rest = rest)
    (cut : (splitOn ',' rest).map trim = parameter.type.toList :: options) :
    read? allowInterpolate (parameter.name.toList ++ ' ' :: rest) =
      if optionsAllowed allowInterpolate options then
        some { parameter with interpolate := !options.isEmpty }
      else none := by
  have typed : parameter.type.toList.isEmpty = false := by
    rw [List.isEmpty_eq_false_iff]
    exact writable.type_ne_nil
  have named : parameter.name.toList.isEmpty = false := by
    rw [List.isEmpty_eq_false_iff]
    exact fun isEmpty => writable.named (String.toList_inj.mp isEmpty)
  rw [read?, writable.trim_name_append nonempty ended,
    splitOnce?_append writable.blank_not_mem]
  simp only [Option.bind_eq_bind, Option.bind_some, cut, named, typed,
    String.ofList_toList]
  cases optionsAllowed allowInterpolate options <;> rfl

/-- The text between the marks of a parameter is read as that parameter, unless
its mark is not allowed. -/
theorem read_body (allowInterpolate : Bool) :
    read allowInterpolate parameter.body.toList =
      if parameter.interpolate && !allowInterpolate then
        .error (.queryParameter parameter.body)
      else .ok parameter := by
  have endsSolid := trimEnd_of_trim writable.trim_type
  cases marked : parameter.interpolate with
  | false =>
      have shape : parameter.body.toList =
          parameter.name.toList ++ ' ' :: parameter.type.toList := by
        simp [body, marked]
      have cut : (splitOn ',' parameter.type.toList).map trim =
          parameter.type.toList :: [] := by
        simp [splitOn_of_not_mem writable.comma_not_mem, writable.trim_type]
      have found := writable.read?_name_append allowInterpolate
        writable.type_ne_nil endsSolid cut
      rw [read, shape, found]
      have same : { parameter with interpolate := false } = parameter := by
        rw [← marked]
      exact congrArg Except.ok same
  | true =>
      let mark : List Char := ",interpolate".toList
      have shape : parameter.body.toList =
          parameter.name.toList ++ ' ' :: (parameter.type.toList ++ mark) := by
        simp [body, marked, mark]
      have cut : (splitOn ',' (parameter.type.toList ++ mark)).map trim =
          parameter.type.toList :: ["interpolate".toList] := by
        change (splitOn ',' (parameter.type.toList ++
          ',' :: "interpolate".toList)).map trim = _
        rw [splitOn_append writable.comma_not_mem, List.map_cons,
          writable.trim_type]
        exact congrArg _ (by decide)
      have found := writable.read?_name_append allowInterpolate
        (List.append_ne_nil_of_left_ne_nil writable.type_ne_nil mark)
        (trimEnd_append (by decide) (by decide)) cut
      rw [read, shape, found]
      cases allowInterpolate with
      | false => simp [optionsAllowed, ← shape]
      | true => simp [optionsAllowed, ← marked]

end Writable

/-- A parameter that is read where interpolation is not allowed has no
options. -/
theorem interpolate_of_read {body : List Char} {parameter : QueryParameter}
    (found : read false body = .ok parameter) :
    parameter.interpolate = false := by
  have found : read? false body = some parameter := by
    rw [read] at found
    split at found
    next other => cases found; exact other
    next => cases found
  simp only [read?, Option.bind_eq_bind, Option.bind_eq_some_iff] at found
  obtain ⟨⟨name, rest⟩, _, found⟩ := found
  split at found
  next => cases found
  next type options _ =>
    split at found
    next => cases found
    next accepted =>
      cases found
      cases options with
      | nil => rfl
      | cons option more => simp [optionsAllowed] at accepted

end QueryParameter

namespace Segment

private theorem parameterAt?_of_ne {c : Char} (different : c ≠ '%')
    (rest : List Char) : parameterAt? (c :: rest) = none := by
  unfold parameterAt?
  split
  next shape => exact (different (List.cons.inj shape).1).elim
  next => rfl

private theorem parameterAt?_marked {body : List Char} (nonempty : body ≠ [])
    (plain : '%' ∉ body) (after : List Char) :
    parameterAt? ('%' :: '%' :: (body ++ '%' :: '%' :: after)) =
      some (body, after) := by
  have inside : ∀ c ∈ body, (c != '%') = true := by
    intro c inBody
    rw [bne_iff_ne]
    rintro rfl
    exact plain inBody
  have taken : (body ++ '%' :: '%' :: after).takeWhile (· != '%') = body := by
    rw [List.takeWhile_append_of_pos inside]
    simp
  have dropped : (body ++ '%' :: '%' :: after).dropWhile (· != '%') =
      '%' :: '%' :: after := by
    rw [List.dropWhile_append_of_pos inside]
    simp
  simp [parameterAt?, taken, dropped, nonempty]

theorem splitFrom_literal {text : List Char} (plain : '%' ∉ text)
    (literal : List Char) :
    splitFrom literal text = [.literal (literal.reverse ++ text)] := by
  induction text generalizing literal with
  | nil => simp [splitFrom]
  | cons c rest ih =>
      rw [List.mem_cons, not_or] at plain
      have unmarked := parameterAt?_of_ne (Ne.symm plain.1) rest
      rw [splitFrom]
      split
      next found => rw [unmarked] at found; cases found
      next => rw [ih plain.2]; simp

/-- The first marks in a text end its first literal text. -/
theorem splitFrom_marked {text body : List Char} (plain : '%' ∉ text)
    (nonempty : body ≠ []) (plainBody : '%' ∉ body)
    (literal after : List Char) :
    splitFrom literal (text ++ '%' :: '%' :: (body ++ '%' :: '%' :: after)) =
      .literal (literal.reverse ++ text) :: .parameter body ::
        splitFrom [] after := by
  induction text generalizing literal with
  | nil =>
      have marked := parameterAt?_marked nonempty plainBody after
      rw [List.nil_append, splitFrom]
      split
      next found =>
        rw [marked] at found
        cases found
        simp
      next missed => rw [marked] at missed; cases missed
  | cons c rest ih =>
      rw [List.mem_cons, not_or] at plain
      have unmarked := parameterAt?_of_ne (Ne.symm plain.1)
        (rest ++ '%' :: '%' :: (body ++ '%' :: '%' :: after))
      rw [List.cons_append, splitFrom]
      split
      next found => rw [unmarked] at found; cases found
      next => rw [ih plain.2]; simp

end Segment

namespace Template

theorem intercalate_cons (text : String) (texts : List String) :
    "".intercalate (text :: texts) = text ++ "".intercalate texts := by
  rw [← String.toList_inj]
  cases texts <;> simp

variable (splice : Bool) (placeholder : Nat → String) (bound : Nat)

theorem renderFrom_literal (text : String) (rest : Template) :
    "".intercalate
        (renderFrom splice placeholder bound (.literal text :: rest)) =
      text ++ "".intercalate (renderFrom splice placeholder bound rest) :=
  intercalate_cons _ _

theorem renderFrom_parameter (parameter : QueryParameter) (rest : Template) :
    "".intercalate
        (renderFrom splice placeholder bound (.parameter parameter :: rest)) =
      parameter.filling splice placeholder bound ++
        "".intercalate (renderFrom splice placeholder
          (bound + if parameter.isBound splice then 1 else 0) rest) := by
  rw [renderFrom, QueryParameter.filling, QueryParameter.isBound]
  cases splice && parameter.interpolate with
  | true => exact intercalate_cons _ _
  | false => exact intercalate_cons _ _

end Template

/-- A statement put together: a literal text, and parameters with the literal
text behind each. -/
structure Outline where
  opening : String
  rest : List (QueryParameter × String)

namespace Outline

/-- The literal texts hold no percent sign, and every parameter can stand
between its marks. -/
structure Legible (outline : Outline) : Prop where
  opening : '%' ∉ outline.opening.toList
  texts : ∀ entry ∈ outline.rest, '%' ∉ entry.2.toList
  parameters : ∀ entry ∈ outline.rest, entry.1.Writable

instance (outline : Outline) : Decidable outline.Legible :=
  decidable_of_iff
    ('%' ∉ outline.opening.toList ∧
      (∀ entry ∈ outline.rest, '%' ∉ entry.2.toList) ∧
      ∀ entry ∈ outline.rest, entry.1.Writable)
    ⟨fun ⟨opening, texts, parameters⟩ => ⟨opening, texts, parameters⟩,
      fun ⟨opening, texts, parameters⟩ => ⟨opening, texts, parameters⟩⟩

def parameters (outline : Outline) : List QueryParameter :=
  outline.rest.map Prod.fst

/-- The statement with its parameters between their marks. -/
def written (outline : Outline) : String :=
  "".intercalate (outline.opening ::
    outline.rest.map fun (parameter, text) => parameter.written ++ text)

/-- The statement with its parameters filled in: each stands behind as many
bound ones as there are among the parameters before it. -/
def filled (splice : Bool) (placeholder : Nat → String) (outline : Outline) :
    String :=
  "".intercalate (outline.opening ::
    outline.rest.mapIdx fun index (parameter, text) =>
      parameter.filling splice placeholder
        ((outline.parameters.take index).countP
          (QueryParameter.isBound splice)) ++ text)

def segments (rest : List (QueryParameter × String)) : List Segment :=
  rest.flatMap fun (parameter, text) =>
    [.parameter parameter.body.toList, .literal text.toList]

theorem ofStatement_written {outline : Outline} (legible : outline.Legible) :
    Segment.ofStatement outline.written =
      .literal outline.opening.toList :: segments outline.rest := by
  obtain ⟨opening, rest⟩ := outline
  obtain ⟨plain, texts, writable⟩ := legible
  dsimp only at plain texts writable
  unfold Segment.ofStatement
  induction rest generalizing opening with
  | nil =>
      have shape : (written ⟨opening, []⟩).toList = opening.toList := by
        simp [written]
      rw [shape, Segment.splitFrom_literal plain]
      rfl
  | cons entry rest ih =>
      obtain ⟨parameter, text⟩ := entry
      obtain ⟨plainText, texts⟩ := List.forall_mem_cons.mp texts
      obtain ⟨here, writable⟩ := List.forall_mem_cons.mp writable
      have shape : (written ⟨opening, (parameter, text) :: rest⟩).toList =
          opening.toList ++ '%' :: '%' :: (parameter.body.toList ++
            '%' :: '%' :: (written ⟨text, rest⟩).toList) := by
        simp [written, QueryParameter.written, String.toList_intercalate]
      rw [shape, Segment.splitFrom_marked plain here.body_ne_nil
        here.plain_body, ih text plainText texts writable]
      rfl

/-- The pieces that some parameters with the literal text behind each are read
as. -/
def pieces (rest : List (QueryParameter × String)) : Template :=
  rest.flatMap fun (parameter, text) => [.parameter parameter, .literal text]

private theorem mapM_segments {rest : List (QueryParameter × String)}
    (writable : ∀ entry ∈ rest, entry.1.Writable) (allowInterpolate : Bool) :
    (segments rest).mapM (Template.readSegment allowInterpolate) =
      match (rest.map Prod.fst).find? fun parameter =>
        parameter.interpolate && !allowInterpolate with
      | some parameter => .error (.queryParameter parameter.body)
      | none => .ok (pieces rest) := by
  induction rest with
  | nil => rfl
  | cons entry rest ih =>
      obtain ⟨parameter, text⟩ := entry
      obtain ⟨here, writable⟩ := List.forall_mem_cons.mp writable
      have read := here.read_body allowInterpolate
      change (Segment.parameter parameter.body.toList ::
        .literal text.toList :: segments rest).mapM _ = _
      rw [List.map_cons, List.find?_cons, List.mapM_cons, List.mapM_cons,
        Template.readSegment, Template.readSegment, String.ofList_toList, read,
        ih writable]
      dsimp only
      cases parameter.interpolate && !allowInterpolate with
      | true => rfl
      | false =>
          cases (rest.map Prod.fst).find? _ with
          | some later => rfl
          | none => rfl

/-- A statement put together is read as it was put together, unless it holds a
mark that is not allowed. -/
theorem read_written {outline : Outline} (legible : outline.Legible)
    (allowInterpolate : Bool) :
    Template.read allowInterpolate outline.written =
      match outline.parameters.find? fun parameter =>
        parameter.interpolate && !allowInterpolate with
      | some parameter => .error (.queryParameter parameter.body)
      | none => .ok (.literal outline.opening :: pieces outline.rest) := by
  rw [Template.read, ofStatement_written legible, List.mapM_cons,
    mapM_segments legible.parameters, parameters, Template.readSegment,
    String.ofList_toList]
  cases (outline.rest.map Prod.fst).find? _ with
  | some parameter => rfl
  | none => rfl

theorem parameters_pieces (rest : List (QueryParameter × String)) :
    (pieces rest).parameters = rest.map Prod.fst := by
  induction rest with
  | nil => rfl
  | cons entry rest ih =>
      rw [List.map_cons, ← ih]
      rfl

private theorem renderFrom_pieces (splice : Bool) (placeholder : Nat → String)
    (bound : Nat) (rest : List (QueryParameter × String)) :
    "".intercalate
        (Template.renderFrom splice placeholder bound (pieces rest)) =
      "".intercalate (rest.mapIdx fun index (parameter, text) =>
        parameter.filling splice placeholder
          (bound + ((rest.map Prod.fst).take index).countP
            (QueryParameter.isBound splice)) ++ text) := by
  induction rest generalizing bound with
  | nil => rfl
  | cons entry rest ih =>
      obtain ⟨parameter, text⟩ := entry
      -- The count behind the first parameter, from zero and from `bound`.
      have counted (index : Nat) :
          bound + (((parameter :: rest.map Prod.fst).take (index + 1)).countP
              (QueryParameter.isBound splice)) =
            (bound + if parameter.isBound splice then 1 else 0) +
              ((rest.map Prod.fst).take index).countP
                (QueryParameter.isBound splice) := by
        rw [List.take_succ_cons, List.countP_cons]
        omega
      change "".intercalate (Template.renderFrom splice placeholder bound
        (.parameter parameter :: .literal text :: pieces rest)) = _
      rw [Template.renderFrom_parameter, Template.renderFrom_literal, ih,
        List.mapIdx_cons, Template.intercalate_cons, String.append_assoc]
      simp only [List.map_cons, counted]
      rfl

/-- The template of a statement put together is rendered as the statement with
its parameters filled in. -/
theorem render_written (splice : Bool) (placeholder : Nat → String)
    (outline : Outline) :
    Template.render splice placeholder
        (.literal outline.opening :: pieces outline.rest) =
      outline.filled splice placeholder := by
  rw [Template.render, Template.renderFrom_literal, renderFrom_pieces, filled,
    Template.intercalate_cons]
  simp only [Nat.zero_add]
  rfl

end Outline

end SchemaAtlas
