import SchemaAtlas.Adapter.Basic
import SchemaAtlas.Proofs.AdHoc.InlineParameters

/-!
# Passes over a statement

A pass goes through the segments of a statement once.  It fills in the
parameters as it meets them and counts those that are bound, which is what
reading a template and rendering it come to.  Two passes over one statement
differ in the text only.
-/

namespace SchemaAtlas

open Text

/-- How far a pass over a statement has come: its text so far, the parameters it
has met, and how many of them were bound. -/
structure Pass where
  text : String
  parameters : List QueryParameter
  bound : Nat
  deriving DecidableEq, Repr

namespace Pass

/-- A parameter is filled in behind what a pass has met before. -/
def fill (splice : Bool) (placeholder : Nat → String) (pass : Pass)
    (parameter : QueryParameter) : Pass where
  text := pass.text ++ parameter.filling splice placeholder pass.bound
  parameters := pass.parameters ++ [parameter]
  bound := pass.bound + if parameter.isBound splice then 1 else 0

def step (allowInterpolate splice : Bool) (placeholder : Nat → String)
    (pass : Pass) : Segment → Except Error Pass
  | .literal text => .ok { pass with text := pass.text ++ String.ofList text }
  | .parameter body =>
    (QueryParameter.read allowInterpolate body).map
      (pass.fill splice placeholder)

def start : Pass := ⟨"", [], 0⟩

def ofStatement (allowInterpolate splice : Bool) (placeholder : Nat → String)
    (statement : String) : Except Error Pass :=
  (Segment.ofStatement statement).foldlM
    (step allowInterpolate splice placeholder) start

variable {allowInterpolate splice : Bool} {placeholder other : Nat → String}

/-! ## A pass and a template -/

/-- What a pass has come to behind the pieces of a template. -/
def behind (splice : Bool) (placeholder : Nat → String) (pass : Pass)
    (template : Template) : Pass where
  text := pass.text ++
    "".intercalate (template.renderFrom splice placeholder pass.bound)
  parameters := pass.parameters ++ template.parameters
  bound := pass.bound +
    template.parameters.countP (QueryParameter.isBound splice)

private theorem behind_nil (pass : Pass) :
    pass.behind splice placeholder [] = pass := by
  simp [behind, Template.renderFrom, Template.parameters]

private theorem behind_literal (pass : Pass) (text : String) (rest : Template) :
    pass.behind splice placeholder (.literal text :: rest) =
      { pass with text := pass.text ++ text }.behind splice placeholder
        rest := by
  simp [behind, Template.renderFrom_literal, Template.parameters,
    String.append_assoc]

private theorem behind_parameter (pass : Pass) (parameter : QueryParameter)
    (rest : Template) :
    pass.behind splice placeholder (.parameter parameter :: rest) =
      (pass.fill splice placeholder parameter).behind splice placeholder
        rest := by
  have later : Template.parameters (.parameter parameter :: rest) =
      parameter :: rest.parameters := rfl
  simp only [behind, fill, later, Template.renderFrom_parameter,
    List.countP_cons, List.append_assoc, String.append_assoc,
    List.singleton_append, Nat.add_assoc, Nat.add_comm]

theorem foldlM_step_eq (segments : List Segment) (pass : Pass) :
    segments.foldlM (step allowInterpolate splice placeholder) pass =
      (segments.mapM (Template.readSegment allowInterpolate)).map
        (pass.behind splice placeholder) := by
  induction segments generalizing pass with
  | nil => exact congrArg Except.ok pass.behind_nil.symm
  | cons segment rest ih =>
      rw [List.foldlM_cons, List.mapM_cons]
      cases segment with
      | literal text =>
          have next := ih { pass with text := pass.text ++ String.ofList text }
          refine next.trans ?_
          cases rest.mapM (Template.readSegment allowInterpolate) with
          | error cause => rfl
          | ok template => exact congrArg Except.ok (behind_literal ..).symm
      | parameter body =>
          rw [step, Template.readSegment]
          cases QueryParameter.read allowInterpolate body with
          | error cause => rfl
          | ok parameter =>
              refine (ih (pass.fill splice placeholder parameter)).trans ?_
              cases rest.mapM (Template.readSegment allowInterpolate) with
              | error cause => rfl
              | ok template =>
                  exact congrArg Except.ok (behind_parameter ..).symm

theorem ofStatement_eq (statement : String) :
    ofStatement allowInterpolate splice placeholder statement =
      (Template.read allowInterpolate statement).map fun template =>
        { text := template.render splice placeholder
          parameters := template.parameters
          bound := template.parameters.countP
            (QueryParameter.isBound splice) } := by
  refine (foldlM_step_eq _ start).trans ?_
  rw [Template.read]
  congr 1
  funext template
  simp [behind, start, Template.render]

/-! ## Two passes -/

/-- Passes that have met the same parameters meet the same ones in the next
segment, or stop at it for the same reason. -/
theorem parameters_step {left right : Pass}
    (same : left.parameters = right.parameters) (segment : Segment) :
    ((step allowInterpolate true placeholder left segment).map
        Pass.parameters) =
      (step allowInterpolate false other right segment).map
        Pass.parameters := by
  cases segment with
  | literal text => exact congrArg Except.ok same
  | parameter body =>
      rw [step, step]
      cases QueryParameter.read allowInterpolate body with
      | error cause => rfl
      | ok parameter =>
          have extended : left.parameters ++ [parameter] =
              right.parameters ++ [parameter] := by
            rw [same]
          exact congrArg Except.ok extended

theorem parameters_foldlM (segments : List Segment) {left right : Pass}
    (same : left.parameters = right.parameters) :
    ((segments.foldlM (step allowInterpolate true placeholder) left).map
        Pass.parameters) =
      (segments.foldlM (step allowInterpolate false other) right).map
        Pass.parameters := by
  -- The texts of the two passes part at the first placeholder, so the induction
  -- is over passes that agree on what they have met.
  induction segments generalizing left right with
  | nil => exact congrArg Except.ok same
  | cons segment rest ih =>
      have next := @parameters_step allowInterpolate placeholder other _ _ same
        segment
      rw [List.foldlM_cons, List.foldlM_cons]
      cases leftStep : step allowInterpolate true placeholder left segment with
      | error cause =>
          cases rightStep : step allowInterpolate false other right segment with
          | error reason =>
              rw [leftStep, rightStep] at next
              exact congrArg Except.error (Except.error.inj next)
          | ok pass => rw [leftStep, rightStep] at next; cases next
      | ok pass =>
          cases rightStep : step allowInterpolate false other right segment with
          | error reason => rw [leftStep, rightStep] at next; cases next
          | ok later =>
              rw [leftStep, rightStep] at next
              exact ih (Except.ok.inj next)

/-! ## Parameters that are bound -/

/-- Without interpolation, a step keeps that all parameters are bound. -/
theorem bound_step {pass next : Pass} {segment : Segment}
    (bound : ∀ parameter ∈ pass.parameters, parameter.interpolate = false)
    (stepped : step false splice placeholder pass segment = .ok next) :
    ∀ parameter ∈ next.parameters, parameter.interpolate = false := by
  cases segment with
  | literal text =>
      cases stepped
      exact bound
  | parameter body =>
      rw [step] at stepped
      cases found : QueryParameter.read false body with
      | error cause => rw [found] at stepped; cases stepped
      | ok parameter =>
          rw [found] at stepped
          cases stepped
          intro entry met
          rcases List.mem_append.mp met with before | last
          · exact bound entry before
          · rw [List.mem_singleton.mp last]
            exact QueryParameter.interpolate_of_read found

theorem bound_foldlM {segments : List Segment} {pass result : Pass}
    (bound : ∀ parameter ∈ pass.parameters, parameter.interpolate = false)
    (passed : segments.foldlM (step false splice placeholder) pass =
      .ok result) :
    ∀ parameter ∈ result.parameters, parameter.interpolate = false := by
  induction segments generalizing pass with
  | nil =>
      cases passed
      exact bound
  | cons segment rest ih =>
      rw [List.foldlM_cons] at passed
      cases stepped : step false splice placeholder pass segment with
      | error cause => rw [stepped] at passed; cases passed
      | ok next =>
          rw [stepped] at passed
          exact ih (bound_step bound stepped) passed

/-- What passes over statements keep, whatever the placeholders. -/
structure RoundTrip (allowInterpolate splice : Bool)
    (placeholder other : Nat → String) : Prop where
  reads : ∀ statement,
    ofStatement allowInterpolate splice placeholder statement =
      (Template.read allowInterpolate statement).map fun template =>
        { text := template.render splice placeholder
          parameters := template.parameters
          bound := template.parameters.countP
            (QueryParameter.isBound splice) }
  /-- A statement put together has its parameters filled in, and nothing else
  changed. -/
  fills : ∀ outline : Outline, outline.Legible →
    (allowInterpolate = true ∨
      ∀ parameter ∈ outline.parameters, parameter.interpolate = false) →
    ofStatement allowInterpolate splice placeholder outline.written =
      .ok {
        text := outline.filled splice placeholder
        parameters := outline.parameters
        bound := outline.parameters.countP (QueryParameter.isBound splice) }
  /-- The first mark that is not allowed is the error. -/
  refuses : allowInterpolate = false → ∀ outline : Outline, outline.Legible →
    ∀ first,
      outline.parameters.find? QueryParameter.interpolate = some first →
      ofStatement allowInterpolate splice placeholder outline.written =
        .error (.queryParameter first.body)
  inStep : ∀ statement,
    (ofStatement allowInterpolate true placeholder statement).map
        Pass.parameters =
      (ofStatement allowInterpolate false other statement).map Pass.parameters
  onlyBound : allowInterpolate = false → ∀ statement pass,
    ofStatement allowInterpolate splice placeholder statement = .ok pass →
    ∀ parameter ∈ pass.parameters, parameter.interpolate = false

theorem roundTrip (allowInterpolate splice : Bool)
    (placeholder other : Nat → String) :
    RoundTrip allowInterpolate splice placeholder other where
  reads := ofStatement_eq
  fills := by
    intro outline legible allowed
    have unmarked : (outline.parameters.find? fun parameter =>
        parameter.interpolate && !allowInterpolate) = none := by
      rw [List.find?_eq_none]
      intro parameter membership
      rcases allowed with rfl | areBound
      · simp
      · simp [areBound parameter membership]
    have parameters :
        Template.parameters
            (.literal outline.opening :: Outline.pieces outline.rest) =
          outline.parameters :=
      Outline.parameters_pieces outline.rest
    rw [ofStatement_eq, Outline.read_written legible, unmarked]
    simp only [Except.map, Outline.render_written, parameters]
  refuses := by
    rintro rfl outline legible first isFirst
    have marked : (outline.parameters.find? fun parameter =>
        parameter.interpolate && !false) = some first := by
      simpa using isFirst
    rw [ofStatement_eq, Outline.read_written legible, marked]
    rfl
  inStep := fun _ => parameters_foldlM _ rfl
  onlyBound := by
    rintro rfl statement pass passed
    exact bound_foldlM (fun _ isMet => by cases isMet) passed

/-- A statement with two bound parameters around one that is spliced in. -/
def paging : Outline where
  opening := "SELECT * FROM entry WHERE id > "
  rest := [(⟨"id", "i64", false⟩, "\nORDER BY "),
    (⟨"column", "String", true⟩, " LIMIT "), (⟨"many", "u32", false⟩, "")]

private theorem legible_paging : paging.Legible := by
  decide

theorem roundTrip_paging :
    paging.written = "SELECT * FROM entry WHERE id > %%id i64%%" ++
        "\nORDER BY %%column String,interpolate%% LIMIT %%many u32%%" ∧
      ofStatement true true (Adapter.numbered "$") paging.written =
        .ok {
          text := "SELECT * FROM entry WHERE id > $1" ++
            "\nORDER BY \x7bcolumn\x7d LIMIT $2"
          parameters := paging.parameters
          bound := 2 } ∧
      ofStatement false true (Adapter.numbered "$") paging.written =
        .error (.queryParameter "column String,interpolate") := by
  refine ⟨by decide +kernel, ?_, ?_⟩
  · have filled := (roundTrip true true (Adapter.numbered "$")
      fun _ => "NULL").fills paging legible_paging (.inl rfl)
    rw [filled]
    exact congrArg Except.ok (by decide +kernel)
  · exact (roundTrip false true (Adapter.numbered "$")
      fun _ => "NULL").refuses rfl paging legible_paging
        ⟨"column", "String", true⟩ rfl

end Pass

/-- A parameter without a name is refused, though its type is fit to be
written. -/
theorem refuses_nameless :
    let nameless : QueryParameter := ⟨"", "i64", false⟩
    ¬ nameless.name.toList.any (fun c => isBlank c || c == '%') ∧
      nameless.type ≠ "" ∧ trimmed nameless.type = nameless.type ∧
      (∀ c ∈ nameless.type.toList, c ≠ ',' ∧ c ≠ '%') ∧
      Outline.written ⟨"", [(nameless, "")]⟩ = "%% i64%%" ∧
      Pass.ofStatement false true (Adapter.numbered "$") "%% i64%%" =
        .error (.queryParameter " i64") := by
  refine ⟨by decide, by decide, by decide, by simp, by decide +kernel, ?_⟩
  have segments : Segment.ofStatement "%% i64%%" =
      [.literal [], .parameter " i64".toList, .literal []] := by
    decide +kernel
  rw [Pass.ofStatement, segments]
  rfl

end SchemaAtlas
