import PolicyReach.Labels
import PolicyReach.Text.Quoted

/-!
# Label selectors

A selector holds requirements on labels and selects the label sets that meet all of them. A
malformed requirement is met by no label set.
-/
namespace PolicyReach

inductive Operator where
  | isIn
  | notIn
  | present
  | absent
  | unsupported (name : String)
  deriving DecidableEq

structure Requirement where
  key : String
  operator : Operator
  values : SortedSet String
  deriving DecidableEq

structure Selector where
  matchLabels : Option Labels
  matchExpressions : Option (List Requirement)
  deriving DecidableEq

inductive SelectorError where
  | emptyKey
  | missingValues (key : String) (operator : Operator)
  | unexpectedValues (key : String) (operator : Operator)
  | unsupportedOperator (key : String) (name : String)
  deriving DecidableEq

namespace Operator

def ofName : String → Operator
  | "In" => .isIn
  | "NotIn" => .notIn
  | "Exists" => .present
  | "DoesNotExist" => .absent
  | name => .unsupported name

def name : Operator → String
  | .isIn => "In"
  | .notIn => "NotIn"
  | .present => "Exists"
  | .absent => "DoesNotExist"
  | .unsupported name => name

end Operator

namespace SelectorError

def message : SelectorError → String
  | .emptyKey => "label selector requirement has an empty key"
  | .missingValues key operator =>
    "requirement on " ++ Text.quoted key ++ " with operator " ++ operator.name ++
      " must have values"
  | .unexpectedValues key operator =>
    "requirement on " ++ Text.quoted key ++ " with operator " ++ operator.name ++
      " must not have values"
  | .unsupportedOperator key name =>
    "requirement on " ++ Text.quoted key ++ " has unsupported operator " ++ Text.quoted name

end SelectorError

namespace Requirement

def check (r : Requirement) : Except SelectorError Unit :=
  if r.key.isEmpty then .error .emptyKey
  else match r.operator with
    | .isIn | .notIn =>
      if r.values.isEmpty then .error (.missingValues r.key r.operator) else .ok ()
    | .present | .absent =>
      if r.values.isEmpty then .ok () else .error (.unexpectedValues r.key r.operator)
    | .unsupported name => .error (.unsupportedOperator r.key name)

/-- What a well-formed requirement asks of the labels. -/
def holds (r : Requirement) (labels : Labels) : Bool :=
  match r.operator, labels.get? r.key with
  | .isIn, some v => r.values.contains v
  | .isIn, none => false
  | .notIn, some v => !r.values.contains v
  | .notIn, none => true
  | .present, v => v.isSome
  | .absent, v => v.isNone
  | .unsupported _, _ => false

def selects (r : Requirement) (labels : Labels) : Bool :=
  match r.check with
  | .ok () => r.holds labels
  | .error _ => false

def text (r : Requirement) : String :=
  match r.operator with
  | .present => r.key
  | .absent => "!" ++ r.key
  | operator =>
    r.key ++ " " ++ operator.name ++ " (" ++ String.intercalate "," r.values.toList ++ ")"

def ofJson? (v : Json) : Option Requirement := do
  match ← v.record? [("key", false), ("operator", false), ("values", true)] with
  | [some key, some operator, values] =>
    let key ← key.asString?
    let operator ← operator.asString?
    let values ← Json.orElse [] (Json.asList? Json.asString?) values
    return ⟨key, .ofName operator, .ofList values⟩
  | _ => none

def toJson (r : Requirement) : Json :=
  let values := if r.values.isEmpty then none else some r.values.toList
  .obj ([("key", .str r.key), ("operator", .str r.operator.name)] ++
    Json.optional "values" (fun vs => .arr (vs.map .str)) values)

end Requirement

namespace Selector

/-- Selects everything. -/
def all : Selector := ⟨none, none⟩

def labels (s : Selector) : List (String × String) := (s.matchLabels.map (·.toList)).getD []

def requirements (s : Selector) : List Requirement := s.matchExpressions.getD []

def isEmpty (s : Selector) : Bool := s.labels.isEmpty && s.requirements.isEmpty

/-- Reports the first malformed requirement, those on single labels before the others. -/
def check (s : Selector) : Except SelectorError Unit := do
  s.labels.forM fun l => if l.1.isEmpty then .error .emptyKey else .ok ()
  s.requirements.forM Requirement.check

def selects (s : Selector) (labels : Labels) : Bool :=
  s.requirements.all (·.selects labels) &&
    s.labels.all fun l => labels.get? l.1 == some l.2

def text (s : Selector) : String :=
  if s.isEmpty then "all"
  else String.intercalate ","
    (s.labels.map (fun l => l.1 ++ "=" ++ l.2) ++ s.requirements.map Requirement.text)

def ofJson? (v : Json) : Option Selector := do
  match ← v.record? [("matchLabels", true), ("matchExpressions", true)] with
  | [labels, expressions] =>
    let labels ← Json.nullable Labels.ofJson? labels
    let expressions ← Json.nullable (Json.asList? Requirement.ofJson?) expressions
    return ⟨labels, expressions⟩
  | _ => none

def toJson (s : Selector) : Json :=
  .obj (Json.optional "matchLabels" Labels.toJson s.matchLabels ++
    Json.optional "matchExpressions" (fun rs => .arr (rs.map Requirement.toJson))
      s.matchExpressions)

end Selector

end PolicyReach
