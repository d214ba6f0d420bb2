import Conformance.Json.Basic

/-!
# Workflow methods

The name under which a workflow is started, the number of its parameters and the kind of value
it declares as its result.
-/

namespace Conformance

/-- The kinds of payloads that a workflow may declare as its result. -/
inductive ValueKind where
  | null
  | bool
  | number
  | string
  | array
  | object
  | any
  deriving DecidableEq, Repr, Inhabited

namespace ValueKind

/-- Whether a payload is of a kind. -/
def holds : ValueKind → Json → Bool
  | null, .null => true
  | bool, .bool _ => true
  | number, .int _ => true
  | number, .float _ => true
  | string, .str _ => true
  | array, .arr _ => true
  | object, .obj _ => true
  | any, _ => true
  | _, _ => false

/-- The name of a kind. -/
def text : ValueKind → String
  | null => "null"
  | bool => "bool"
  | number => "number"
  | string => "string"
  | array => "array"
  | object => "object"
  | any => "any"

/-- Every kind. -/
def all : List ValueKind := [null, bool, number, string, array, object, any]

/-- The kind with a given name. -/
def ofText? (name : String) : Option ValueKind := all.find? fun k => k.text = name

end ValueKind

/-- How a workflow is called. -/
structure WorkflowMethod where
  name : String
  returns : ValueKind := .any
  arity : Nat := 0
  deriving DecidableEq, Repr, Inhabited

end Conformance
