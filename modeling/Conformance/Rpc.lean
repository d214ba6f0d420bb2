/-!
# RPC status

The codes with which a server refuses a call, and the errors that carry them.
-/

namespace Conformance

/-- The status codes of failed calls. -/
inductive RpcCode where
  | notFound
  | permissionDenied
  | unimplemented
  | unavailable
  | invalidArgument
  | deadlineExceeded
  | internal
  | unknown
  deriving DecidableEq, Repr, Inhabited

namespace RpcCode

/-- The name of a code. -/
def text : RpcCode → String
  | notFound => "NOT_FOUND"
  | permissionDenied => "PERMISSION_DENIED"
  | unimplemented => "UNIMPLEMENTED"
  | unavailable => "UNAVAILABLE"
  | invalidArgument => "INVALID_ARGUMENT"
  | deadlineExceeded => "DEADLINE_EXCEEDED"
  | internal => "INTERNAL"
  | unknown => "UNKNOWN"

/-- Every code. -/
def all : List RpcCode :=
  [notFound, permissionDenied, unimplemented, unavailable, invalidArgument, deadlineExceeded,
    internal, unknown]

/-- The code with a given name. -/
def ofText? (name : String) : Option RpcCode := all.find? fun c => c.text = name

end RpcCode

/-- The error of a call that the server refused. -/
structure RpcError where
  code : RpcCode
  message : String
  deriving DecidableEq, Repr, Inhabited

/-- The code and the message of an error. -/
def RpcError.text (e : RpcError) : String := e.code.text ++ ": " ++ e.message

end Conformance
